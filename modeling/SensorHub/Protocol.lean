import SensorHub.System

/-!
# The commands the driver sends the firmware

The driver talks to the sensor hub's firmware through the sysfs attributes of its IIO
device, one text per `write`. `Command` is the grammar of those texts, attribute by
attribute, as the driver formats them:

* `enable`: a sensor id and `!!en`, `"<id> <0|1>\n"`, which always fits its 10 bytes;
* `batch_enable`: a sensor id, the flags and the two durations narrowed to `int`, as far as
  its 32 bytes hold them, each the text a `batch` call of the run formats from its own
  arguments (`Call.numbersCommand`);
* `delay_ms`: a sensor id and the delay in milliseconds, as far as its 80 bytes hold them,
  the text of a `setDelay` call of the run;
* `flush`: a sensor id, `"<id>\n"`, or the sync request `TIMESTAMP_SYNC_CODE`;
* `buffer/length`: `IIO_MAX_BUFF_SIZE`; `buffer/enable`: `0` or `1`;
* `trigger/current_trigger`: the trigger's name, whatever the driver holds
  (`trigger_written_once` says which).

The ids are those of the table: `find_sensor` answers `-1` for a handle of no kind, and
every call checks its answer before it formats a command. Each call, with every argument
and every I/O outcome, the nested calls of `readEvents` included, appends only commands
(`Call.step_commands`), and so does the constructor: every write of every run is a command
(`sysfs_writes_are_commands`). A `%d` scan of a command on a per-sensor attribute therefore
reads a sensor id of the table, the truncated texts included
(`firmware_reads_sensor_ids`).
-/

namespace SensorHub

/-- The text a call formats from its own arguments for an attribute that carries numbers:
`batch` for `batch_enable` (lines 652–662), `setDelay` for `delay_ms` (lines 781–785). -/
def Call.numbersCommand (H : Header) : Call → Option (Attr × String)
  | .batch _ handle flags periodNs timeout => some (.batchEnable, snprintfWrite 32
      (toString (H.findSensor handle) ++ " " ++ toString flags ++ " " ++
        toString (int32 (periodNs.tdiv NS_PER_MS)) ++ " " ++
        toString (int32 (timeout.tdiv NS_PER_MS)) ++ "\n"))
  | .setDelay _ handle delayNs => some (.delayMs, snprintfWrite 80
      (toString (H.findSensor handle) ++ " " ++ toString (delayNs.tdiv NS_PER_MS) ++ "\n"))
  | _ => none

namespace CwMcuSensor

variable (H : Header) {Q : Attr × String → Prop}

/-- The texts the driver writes, attribute by attribute; a text that carries numbers, on
`batch_enable` or `delay_ms`, also meets `Q`, what is known of the call that formatted it. -/
def Command (Q : Attr × String → Prop) : Attr × String → Prop
  | (.bufferLength, t) => t = toString IIO_MAX_BUFF_SIZE
  | (.currentTrigger, _) => True
  | (.bufferEnable, t) => t = toString (0 : ℤ) ∨ t = toString (1 : ℤ)
  | (.enable, t) => ∃ k, ∃ f ≤ 1, t = toString (H.tag k : ℤ) ++ " " ++ toString f ++ "\n"
  | (.batchEnable, t) => Q (.batchEnable, t) ∧ ∃ k, ∃ flags delayMs timeoutMs : ℤ,
      inInt delayMs = true ∧ inInt timeoutMs = true ∧
      t = snprintfWrite 32 (toString (H.tag k : ℤ) ++ " " ++ toString flags ++ " " ++
        toString delayMs ++ " " ++ toString timeoutMs ++ "\n")
  | (.delayMs, t) => Q (.delayMs, t) ∧ ∃ k, ∃ delayMs : ℤ,
      t = snprintfWrite 80 (toString (H.tag k : ℤ) ++ " " ++ toString delayMs ++ "\n")
  | (.flush, t) => (∃ k, t = toString (H.tag k : ℤ) ++ "\n") ∨
      t = snprintfWrite 10 (toString H.timestampSyncCode ++ "\n")

/-- Every write of the log is a command. -/
def Commands (Q : Attr × String → Prop) (log : List (Attr × String)) : Prop :=
  ∀ w ∈ log, Command H Q w

@[simp] theorem commands_append {l l' : List (Attr × String)} :
    Commands H Q (l ++ l') ↔ Commands H Q l ∧ Commands H Q l' :=
  List.forall_mem_append

@[simp] theorem commands_nil : Commands H Q [] := nofun

theorem commands_written (o : SysfsOutcome) {w : Attr × String} (h : Command H Q w) :
    Commands H Q (written o w) :=
  fun _ hw => mem_written hw ▸ h

@[simp] theorem commands_written_iff (o : SysfsOutcome) (w : Attr × String) :
    Commands H Q (written o w) ↔ ((o.opened && o.written) = true → Command H Q w) := by
  unfold written; split <;> simp_all [Commands]

/-! ### The commands each call formats -/

/-- A sensor id has two digits at most. -/
theorem length_toString_tag (k : SensorKind) : (toString (H.tag k : ℤ)).length ≤ 2 := by
  have := H.tag_lt_32 k
  have h := length_toString_le (x := (H.tag k : ℤ)) (e := 2) (by omega) (by simp; omega)
  simpa using h

theorem command_enable (k : SensorKind) {f : ℕ} (hf : f ≤ 1) :
    Command H Q (.enable, snprintfWrite 10 (toString (H.tag k : ℤ) ++ " " ++ toString f ++ "\n")) := by
  refine ⟨k, f, hf, snprintfWrite_of_lt ?_⟩
  have hw := length_toString_tag H k
  have hl : (toString f).length = 1 := by obtain rfl | rfl : f = 0 ∨ f = 1 := (by omega) <;> rfl
  simp only [String.length_append, hl]
  have hs : " ".length = 1 := rfl
  have hn : "\n".length = 1 := rfl
  omega

theorem command_flush (k : SensorKind) :
    Command H Q (.flush, snprintfWrite 10 (toString (H.tag k : ℤ) ++ "\n")) := by
  refine .inl ⟨k, snprintfWrite_of_lt ?_⟩
  have hw := length_toString_tag H k
  have hn : "\n".length = 1 := rfl
  simp only [String.length_append]
  omega

theorem command_sync : Command H Q (.flush, snprintfWrite 10 (toString H.timestampSyncCode ++ "\n")) :=
  .inr rfl

theorem inInt_int32 (x : ℤ) : inInt (int32 x) = true :=
  decide_eq_true (int32_range x)

theorem setEnable_commands (o : SetEnableOutcome) (handle en : ℤ) {s : CwMcuSensor}
    (hs : Commands H Q s.sysfs) : Commands H Q (setEnable H o handle en s).2.sysfs := by
  rw [setEnable_eq]
  cases hk : H.kindOfHandle handle with
  | none =>
    have hN : H.numSensors ≤ 4294967295 := by have := H.numSensors_lt; omega
    simpa [H.findSensor_of_kindOfHandle_none hk, hN] using hs
  | some k =>
    have he := commands_written (Q := Q) H o.enable
      (command_enable H k (show (if en = 0 then 0 else 1 : ℕ) ≤ 1 by split <;> omega))
    simp only [findSensor_of_kindOfHandle H hk, uint32_tag_lt, if_false]
    by_cases ho : o.enable.opened
    · simp only [ho, if_true, commands_append]
      refine ⟨⟨hs, he⟩, ?_⟩
      split_ifs
      all_goals first
        | exact commands_nil H
        | exact commands_written H _ (show Command H Q (.bufferEnable, _) from .inl rfl)
    · simpa [ho] using hs

theorem setDelay_commands (o : SysfsOutcome) (handle delayNs : ℤ) {s : CwMcuSensor}
    (hQ : ∀ w, (Call.setDelay o handle delayNs).numbersCommand H = some w → Q w)
    (hs : Commands H Q s.sysfs) : Commands H Q (setDelay H o handle delayNs s).2.sysfs := by
  have hq := hQ _ rfl
  rw [setDelay_eq]
  dsimp only
  split_ifs with hc
  · exact hs
  · obtain ⟨k, hk, -⟩ :=
      (H.uint32_findSensor_lt_iff H.numSensors_lt handle).mp (Nat.lt_of_not_le hc)
    rw [findSensor_of_kindOfHandle H hk] at hq ⊢
    exact (commands_append H).mpr ⟨hs, commands_written H o ⟨hq, k, _, rfl⟩⟩

theorem syncTimestamp_commands (o : SyncOutcome) {s : CwMcuSensor}
    (hs : Commands H Q s.sysfs) : Commands H Q (syncTimestamp H o s).2.sysfs := by
  rw [syncTimestamp_eq]
  exact (commands_append H).mpr ⟨hs, commands_written H _ (command_sync H)⟩

theorem flush_commands (o : SysfsOutcome) (handle : ℤ) {s : CwMcuSensor}
    (hs : Commands H Q s.sysfs) : Commands H Q (flush H o handle s).2.sysfs := by
  rw [flush_eq]
  dsimp only
  by_cases hc : H.sensorsIdEnd ≤ uint32 (H.findSensor handle)
  · rw [if_pos hc]; exact hs
  · rw [if_neg hc]
    obtain ⟨k, hk, -⟩ :=
      (H.uint32_findSensor_lt_iff H.sensorsIdEnd_lt handle).mp (Nat.lt_of_not_le hc)
    rw [findSensor_of_kindOfHandle H hk]
    exact (commands_append H).mpr ⟨hs, commands_written H o (command_flush H k)⟩

theorem batch_commands (o : BatchOutcome) (handle flags periodNs timeout : ℤ) {s : CwMcuSensor}
    (hQ : ∀ w, (Call.batch o handle flags periodNs timeout).numbersCommand H = some w → Q w)
    (hs : Commands H Q s.sysfs) : Commands H Q (batch H o handle flags periodNs timeout s).2.sysfs := by
  rcases batch_snd_of_checks H o handle flags periodNs timeout s with h | ⟨h1, h2, h3⟩
  · rw [h]; exact hs
  obtain ⟨k, hk, -⟩ :=
    (H.uint32_findSensor_lt_iff H.sensorsIdEnd_lt handle).mp (Nat.lt_of_not_le h1)
  have hq := hQ _ rfl
  rw [batch_of_checks H o handle flags periodNs timeout s h1 h2 h3]
  rw [findSensor_of_kindOfHandle H hk] at hq ⊢
  simp only [commands_append]
  refine ⟨⟨⟨hs, ?_⟩, commands_written H _ (command_sync H)⟩, commands_written H _
    ⟨hq, k, flags, _, _, inInt_int32 _, inInt_int32 _, rfl⟩⟩
  split_ifs <;> simp [Command]

theorem processEvent_commands (o : ProcessOutcome) (r : Record) {s : CwMcuSensor}
    (hs : Commands H Q s.sysfs) : Commands H Q (processEvent H o r s).2.sysfs := by
  rw [(processEvent_spec H o r s).2.2.2.2, commands_append]
  refine ⟨hs, ?_⟩
  split_ifs
  · exact commands_written H _ (command_sync H)
  · exact commands_nil H

theorem dispatchEvent_commands (o : IterOutcome) (r : Record) {s : CwMcuSensor}
    (hs : Commands H Q s.sysfs) : Commands H Q (dispatchEvent H o r s).2.sysfs := by
  have h1 := processEvent_commands H o.process r hs
  rw [dispatchEvent_eq]; dsimp only
  split_ifs <;> simp only [calculateRv4thElement_sysfs, stampSlot_sysfs]
  · exact h1
  · exact setEnable_commands H _ _ _ (by simpa only [stampSlot_sysfs] using h1)
  all_goals exact h1

theorem dispatchAll_commands (io : ℕ → IterOutcome) (q : List Record) {s : CwMcuSensor}
    (hs : Commands H Q s.sysfs) : Commands H Q (dispatchAll H io q s).2.sysfs := by
  induction q generalizing io s with
  | nil => exact hs
  | cons r q ih => exact ih (fun i => io (i + 1)) (dispatchEvent_commands H (io 0) r hs)

/-- The constructor's block writes `buffer/length`, the trigger's name and `buffer/enable`. -/
theorem initBuffer_commands (o : InitOutcome) {s : CwMcuSensor} (hs : Commands H Q s.sysfs) :
    Commands H Q (initBuffer o s).sysfs := by
  have hl : (toString IIO_MAX_BUFF_SIZE).length < INT32_CHAR_LEN := by decide
  have h1 : (toString (1 : ℤ)).length < INT32_CHAR_LEN := by decide
  simp only [initBuffer, sysfsSetInputAttrByInt_snd _ hl, sysfsSetInputAttrByInt_snd _ h1,
    sysfsSetInputAttr_snd, record]
  split_ifs <;> simp [Command, hs]

/-! ### What the firmware reads -/

/-- A `%d` scan of a text that opens with a sensor id and a character other than a digit
reads the id. -/
theorem scanDecimal_tag (k : SensorKind) {c : Char} (hc : c.isDigit = false) (cs : List Char) :
    scanDecimal ((toString (H.tag k : ℤ)).data ++ c :: cs) = .ok ((H.tag k : ℤ), c :: cs) :=
  scanDecimal_toString _ (by simpa using hc)

/-- So does the scan of what `write` sends after `snprintf` cut such a text at a buffer of
four bytes or more: the id and the character after it survive the cut. -/
theorem scanDecimal_snprintfWrite_tag (k : SensorKind) {n : ℕ} (hn : 4 ≤ n) {c : Char}
    (hc : c.isDigit = false) {cs : List Char} {t : String}
    (ht : t.data = (toString (H.tag k : ℤ)).data ++ c :: cs) :
    ∃ rest, scanDecimal (snprintfWrite n t).data = .ok ((H.tag k : ℤ), rest) := by
  have hl : (toString (H.tag k : ℤ)).data.length ≤ 2 := length_toString_tag H k
  unfold snprintfWrite
  split
  · -- no cut: the whole text
    exact ⟨_, by rw [ht]; exact scanDecimal_tag H k hc cs⟩
  · -- a cut at `n - 1` keeps the id, the character after it and `j` more
    obtain ⟨j, hj⟩ : ∃ j, n - 1 = (toString (H.tag k : ℤ)).data.length + (j + 1) :=
      ⟨n - 2 - (toString (H.tag k : ℤ)).data.length, by omega⟩
    refine ⟨c :: (cs.take j ++ [Char.ofNat 0]), ?_⟩
    show scanDecimal (t.data.take (n - 1) ++ [Char.ofNat 0]) = _
    rw [ht, hj, List.take_append, List.take_succ_cons, List.append_assoc, List.cons_append]
    exact scanDecimal_tag H k hc _

/-- On a per-sensor attribute, a command is the sync request, or a `%d` scan of it reads a
sensor id of the table. -/
theorem Command.scan {w : Attr × String} (hw : Command H Q w)
    (ha : w.1 = .enable ∨ w.1 = .batchEnable ∨ w.1 = .delayMs ∨ w.1 = .flush) :
    (∃ k rest, scanDecimal w.2.data = .ok ((H.tag k : ℤ), rest)) ∨
      w = (.flush, snprintfWrite 10 (toString H.timestampSyncCode ++ "\n")) := by
  obtain ⟨a, t⟩ := w
  dsimp only at ha ⊢
  have hsp : (' ').isDigit = false := rfl
  have hnl : ('\n').isDigit = false := rfl
  have hs : " ".data = [' '] := rfl
  have hn : "\n".data = ['\n'] := rfl
  rcases ha with rfl | rfl | rfl | rfl
  · -- `enable`: the id, then a space
    obtain ⟨k, f, -, rfl⟩ := hw
    refine .inl ⟨k, ' ' :: ((toString f).data ++ ['\n']), ?_⟩
    simp only [String.data_append, hs, hn, List.append_assoc, List.singleton_append]
    exact scanDecimal_tag H k hsp _
  · -- `batch_enable`: the id and a space survive the cut at 32 bytes
    obtain ⟨-, k, flags, d, tm, -, -, rfl⟩ := hw
    exact .inl ⟨k, scanDecimal_snprintfWrite_tag H k (by omega) hsp
      (by simp only [String.data_append, hs, hn, List.append_assoc, List.cons_append]; rfl)⟩
  · -- `delay_ms`: and the cut at 80
    obtain ⟨-, k, d, rfl⟩ := hw
    exact .inl ⟨k, scanDecimal_snprintfWrite_tag H k (by omega) hsp
      (by simp only [String.data_append, hs, hn, List.append_assoc, List.cons_append]; rfl)⟩
  · -- `flush`: the id and a newline, or the sync request
    rcases hw with ⟨k, rfl⟩ | rfl
    · refine .inl ⟨k, ['\n'], ?_⟩
      simp only [String.data_append, hn]
      exact scanDecimal_tag H k hnl []
    · exact .inr rfl

end CwMcuSensor

open CwMcuSensor

section Protocol

variable (H : Header)

theorem Call.step_commands (c : Call) {Q : Attr × String → Prop}
    (hQ : ∀ w, c.numbersCommand H = some w → Q w) {h : Hub} (hs : Commands H Q h.driver.sysfs) :
    Commands H Q (c.step H h).2.driver.sysfs := by
  cases c with
  | setEnable o handle en => exact setEnable_commands H o handle en hs
  | setDelay o handle delayNs => exact setDelay_commands H o handle delayNs hQ hs
  | batch o handle flags periodNs timeout => exact batch_commands H o handle flags periodNs timeout hQ hs
  | flush o handle => exact flush_commands H o handle hs
  | syncTimestamp o => exact syncTimestamp_commands H o hs
  | readEvents o count =>
    obtain ⟨pre, hst⟩ := readEvents_state_eq H o count h.reader h.driver
    simp only [Call.step, hst]
    exact dispatchAll_commands H o.iter pre hs

/-- A run whose every call formats, on the attributes that carry numbers, only texts that
meet `Q` writes only commands. -/
theorem run_commands {Q : Attr × String → Prop} (cs : List Call)
    (hQ : ∀ c ∈ cs, ∀ w, c.numbersCommand H = some w → Q w) {h : Hub}
    (hs : Commands H Q h.driver.sysfs) : Commands H Q (run H cs h).2.driver.sysfs := by
  induction cs generalizing h with
  | nil => exact hs
  | cons c cs ih =>
    exact ih (fun c' hc' => hQ c' (.tail _ hc')) (c.step_commands H (hQ c (.head _)) hs)

/-- The constructor writes only commands: the buffer block, then `setEnable(0, 1)`. -/
theorem init_commands (m : Memory) (o : InitOutcome) {Q : Attr × String → Prop} :
    Commands H Q (CwMcuSensor.init H m o).sysfs := by
  unfold CwMcuSensor.init; dsimp only
  split
  · exact setEnable_commands H _ _ _ (initBuffer_commands H o (commands_nil H))
  · exact commands_nil H

/-- **The driver writes only commands.** After the constructor and any sequence of calls,
with every argument and every I/O outcome, the nested calls of `readEvents` included, every
text that reached a sysfs attribute is a command of the firmware's protocol: on `enable` a
sensor id of the table and `0` or `1`, never cut; on `flush` a sensor id or the sync request;
on `batch_enable` and `delay_ms` a sensor id and numbers, as far as the buffer holds them,
and the very text that a call of the run formatted from its own arguments; on the buffer
attributes their fixed values. -/
theorem sysfs_writes_are_commands (m : Memory) (o : InitOutcome) (cs : List Call) :
    ∀ w ∈ (run H cs ⟨CwMcuSensor.init H m o, []⟩).2.driver.sysfs,
      Command H (fun w => ∃ c ∈ cs, c.numbersCommand H = some w) w :=
  run_commands H cs (fun c hc _ hw => ⟨c, hc, hw⟩) (init_commands H m o)

/-- A `batch` of the gyroscope with flags of ten digits and both durations at `INT_MIN`
formats 37 characters: what reaches `batch_enable` is cut at 31 and a NUL, and is still a
command, the text of that call. -/
theorem truncated_batch_command_is_command :
    let ok : SysfsOutcome := ⟨true, true, 0⟩
    let c : Call := .batch ⟨ok, ok, ok, ⟨ok, 0⟩, ok⟩ (Header.sample.handle .gyro) 2147483646
      (-2147483648000000) (-2147483648000000)
    let w : Attr × String := (.batchEnable, "2 2147483646 -2147483648 -21474\x00")
    w ∈ (run Header.sample [c] ⟨CwMcuSensor.init Header.sample default .ok, []⟩).2.driver.sysfs ∧
      c.numbersCommand Header.sample = some w ∧
      Command Header.sample (fun w => ∃ c' ∈ [c], c'.numbersCommand Header.sample = some w) w := by
  intro ok c w
  have h : w ∈ (run Header.sample [c] ⟨CwMcuSensor.init Header.sample default .ok, []⟩).2.driver.sysfs := by
    decide
  exact ⟨h, by decide, sysfs_writes_are_commands Header.sample _ _ _ _ h⟩

/-- **The firmware reads a sensor of the table.** In every reachable state, a `%d` scan of
every text that reached `enable`, `batch_enable`, `delay_ms` or `flush` reads the id of a
sensor of the table, the texts `snprintf` cut included, unless the text is the sync request
on `flush`: no handle the framework passes, valid or not, makes the driver address the
firmware with an id outside the table. -/
theorem firmware_reads_sensor_ids {h : Hub} (hr : Reachable H h) :
    ∀ w ∈ h.driver.sysfs, (w.1 = .enable ∨ w.1 = .batchEnable ∨ w.1 = .delayMs ∨ w.1 = .flush) →
      (∃ k rest, scanDecimal w.2.data = .ok ((H.tag k : ℤ), rest)) ∨
        w = (.flush, snprintfWrite 10 (toString H.timestampSyncCode ++ "\n")) := by
  have hc : Commands H (fun _ => True) h.driver.sysfs := by
    induction hr with
    | init m o => exact init_commands H m o
    | step c _ ih => exact c.step_commands H (fun _ _ => trivial) ih
  exact fun w hw ha => (hc w hw).scan H ha

/-- After the constructor and a `flush` of the gyroscope, the firmware reads the gyroscope's id
from the command. -/
theorem firmware_reads_gyroscope_flush :
    Reachable Header.sample ((Call.flush ⟨true, true, 0⟩ (Header.sample.handle .gyro)).step
      Header.sample ⟨CwMcuSensor.init Header.sample default .ok, []⟩).2 ∧
    (Attr.flush, "2\n") ∈ ((Call.flush ⟨true, true, 0⟩ (Header.sample.handle .gyro)).step
      Header.sample ⟨CwMcuSensor.init Header.sample default .ok, []⟩).2.driver.sysfs ∧
    ∀ w ∈ ((Call.flush ⟨true, true, 0⟩ (Header.sample.handle .gyro)).step
      Header.sample ⟨CwMcuSensor.init Header.sample default .ok, []⟩).2.driver.sysfs,
      (w.1 = .enable ∨ w.1 = .batchEnable ∨ w.1 = .delayMs ∨ w.1 = .flush) →
      (∃ k rest, scanDecimal w.2.data = .ok ((Header.sample.tag k : ℤ), rest)) ∨
        w = (.flush, snprintfWrite 10 (toString Header.sample.timestampSyncCode ++ "\n")) :=
  ⟨.step _ (.init _ _), by decide, firmware_reads_sensor_ids Header.sample (.step _ (.init _ _))⟩

end Protocol

end SensorHub
