import Mathlib.Data.List.DropRight
import PowerMeter.Foundations.DelimitedText

/-!
# The log of Zigbee2MQTT events

`tools/z2m-events.py` prints one comma-separated row for every change the coordinator publishes,
and `tools/plot-power.py` reads the rows back to mark them on the current trace. Rows are written
without quoting: only commas of the value are replaced.
-/

namespace PowerMeter.EventLog

open DelimitedText

/-- `str` of an integer. -/
def decimal : ℤ → List Char
  | .ofNat n => Nat.toDigits 10 n
  | .negSucc n => '-' :: Nat.toDigits 10 (n + 1)

/-- ASCII characters that `int` strips. -/
def isSpace (char : Char) : Bool :=
  char = ' ' || (9 ≤ char.toNat && char.toNat ≤ 13)

/-- Digits, with single underscores between them. -/
def digits? (text : List Char) : Option ℕ :=
  let groups := text.splitOn '_'
  if groups.all fun group => !group.isEmpty && group.all Char.isDigit then
    some (Nat.ofDigitChars 10 groups.flatten 0)
  else none

/-- `int` of an ASCII string; on anything but a number it raises. -/
def int? (text : List Char) : Option ℤ :=
  match (text.dropWhile isSpace).rdropWhile isSpace with
  | '-' :: digits => (digits? digits).map fun (n : ℕ) => -(n : ℤ)
  | '+' :: digits => (digits? digits).map Int.ofNat
  | digits => (digits? digits).map Int.ofNat

/-- A row of the log. -/
structure Event where
  wallclockMs : ℤ
  topic : List Char
  field : List Char
  value : List Char
  deriving DecidableEq

/-- `str(value).replace(",", ";")`. -/
def valStr (value : List Char) : List Char := value.map fun char => if char = ',' then ';' else char

/-- The line `emit` prints, without its end. -/
def emit (event : Event) : List Char :=
  decimal event.wallclockMs ++ ',' :: (event.topic ++ ',' :: (event.field ++ ',' ::
    valStr event.value))

/-- What the log says before its first row. -/
structure LogHeader where
  started : List Char
  startedWallclockMs : ℤ
  ieee : List Char
  durationS : List Char
  note : List Char

/-- The lines printed before the first row. -/
def LogHeader.printed (header : LogHeader) : List (List Char) :=
  ["# z2m-events started=".toList ++ header.started ++ " started_wallclock_ms=".toList ++
      decimal header.startedWallclockMs,
    "# ieee=".toList ++ header.ieee ++ " duration_s=".toList ++ header.durationS] ++
  (if header.note = [] then [] else ["# note=".toList ++ header.note]) ++
  ["wallclock_ms,topic,field,value".toList]

/-- `print`. -/
def print (printed : List (List Char)) : List Char := printed.flatMap (· ++ ['\n'])

/-- The log file. -/
def eventLog (header : LogHeader) (events : List Event) : List Char :=
  print (header.printed ++ events.map emit)

/-- A line that `parse_events` passes over at once. -/
def skips (line : List Char) : Bool :=
  line.head? = some '#' || line.isEmpty || "wallclock_ms".toList.isPrefixOf line

/-- The rows a line adds. -/
def readLine (line : List Char) : Option (List Event) :=
  if skips line then some []
  else
    match fields ',' 3 line with
    | [ms, topic, field, value] =>
        (int? ms).map fun wallclockMs => [⟨wallclockMs, topic, field, value⟩]
    | _ => some []

/-- The loop over the lines. -/
def readLines : List (List Char) → Option (List Event)
  | [] => some []
  | line :: later => do
      let events ← readLine line
      let rest ← readLines later
      some (events ++ rest)

/-- `parse_events`. -/
def parseEvents (content : List Char) : Option (List Event) := readLines (lines content)

namespace Event

/-- The row as it is read back. -/
def asRead (event : Event) : Event := { event with value := firstLine (valStr event.value) }

/-- The topic and the field stay in their columns. -/
structure Plain (event : Event) : Prop where
  topic_unsplit : ',' ∉ event.topic
  topic_unbroken : Unbroken event.topic
  field_unsplit : ',' ∉ event.field
  field_unbroken : Unbroken event.field

end Event

/-- No header value holds a line break. -/
structure LogHeader.OneLine (header : LogHeader) : Prop where
  started : Unbroken header.started
  ieee : Unbroken header.ieee
  durationS : Unbroken header.durationS
  note : Unbroken header.note

theorem mem_decimal {number : ℤ} {char : Char} (member : char ∈ decimal number) :
    char = '-' ∨ char.isDigit = true := by
  cases number with
  | ofNat n => exact .inr (Nat.isDigit_of_mem_toDigits (by omega) (by omega) member)
  | negSucc n =>
      rcases List.mem_cons.mp member with rfl | member
      · exact .inl rfl
      · exact .inr (Nat.isDigit_of_mem_toDigits (by omega) (by omega) member)

theorem digits?_toDigits (n : ℕ) : digits? (Nat.toDigits 10 n) = some n := by
  have whole : (Nat.toDigits 10 n).splitOn '_' = [Nat.toDigits 10 n] :=
    List.splitOn_eq_singleton Nat.underscore_not_in_toDigits
  have numeric : ∀ char ∈ Nat.toDigits 10 n, char.isDigit = true :=
    fun char member => Nat.isDigit_of_mem_toDigits (by omega) (by omega) member
  simp only [digits?, whole]
  rw [if_pos (by simpa [Nat.toDigits_ne_nil] using numeric)]
  simp [Nat.ofDigitChars_ten_toDigits]

theorem not_isSpace_of_isDigit {char : Char} (digit : char.isDigit = true) :
    isSpace char = false := by
  have bounds : 48 ≤ char.toNat ∧ char.toNat ≤ 57 := by
    simpa [Char.isDigit, UInt32.le_iff_toNat_le] using digit
  have unequal : char ≠ ' ' := by
    rintro rfl
    simp at bounds
  simp [isSpace, unequal]
  omega

theorem decimal_ne_nil (number : ℤ) : decimal number ≠ [] := by
  cases number with
  | ofNat n => exact Nat.toDigits_ne_nil
  | negSucc n => simp [decimal]

theorem int?_decimal (number : ℤ) : int? (decimal number) = some number := by
  have visible : ∀ char ∈ decimal number, isSpace char = false := by
    intro char member
    rcases mem_decimal member with rfl | digit
    · rfl
    · exact not_isSpace_of_isDigit digit
  have front : (decimal number).dropWhile isSpace = decimal number := by
    rw [List.dropWhile_eq_self_iff]
    intro nonempty
    simp [visible _ (List.getElem_mem nonempty)]
  have back : (decimal number).rdropWhile isSpace = decimal number := by
    rw [List.rdropWhile_eq_self_iff]
    intro nonempty
    simp [visible _ (List.getLast_mem nonempty)]
  rw [int?, front, back]
  cases number with
  | ofNat n =>
      have unsigned : ∀ {sign : Char} {digits : List Char}, sign.isDigit = false →
          decimal (.ofNat n) ≠ sign :: digits := by
        intro sign digits undigit same
        have member : sign ∈ Nat.toDigits 10 n := by
          rw [show Nat.toDigits 10 n = sign :: digits from same]
          exact List.mem_cons_self
        have digit := Nat.isDigit_of_mem_toDigits (by omega) (by omega) member
        rw [undigit] at digit
        exact absurd digit (by simp)
      split
      next same => exact absurd same (unsigned rfl)
      next same => exact absurd same (unsigned rfl)
      next => exact congrArg (Option.map _) (digits?_toDigits n)
  | negSucc n => simp [decimal, digits?_toDigits, Int.negSucc_eq]

theorem comma_not_mem_decimal (number : ℤ) : ',' ∉ decimal number := by
  intro member
  rcases mem_decimal member with dash | digit
  · simp at dash
  · simp at digit

theorem unbroken_decimal (number : ℤ) : Unbroken (decimal number) := by
  intro char member
  rcases mem_decimal member with rfl | digit
  · rfl
  · have visible := not_isSpace_of_isDigit digit
    rw [Bool.eq_false_iff]
    intro breaks
    obtain rfl | rfl : char = '\n' ∨ char = '\r' := by simpa [isBreak] using breaks
    · simp [isSpace] at visible
    · simp [isSpace] at visible

theorem comma_not_mem_valStr (value : List Char) : ',' ∉ valStr value := by
  simp only [valStr, List.mem_map, not_exists, not_and]
  intro char _
  split <;> simp_all

theorem readLine_of_not_mem {line : List Char} (unsplit : ',' ∉ line) :
    readLine line = some [] := by
  rw [readLine, fields_of_not_mem unsplit]
  exact ite_self _

theorem readLine_of_skips {line : List Char} (skipped : skips line = true) :
    readLine line = some [] := by
  rw [readLine, if_pos skipped]

/-- Whatever the value, a row with a plain topic and field is read column by column. -/
theorem readLine_row {event : Event} (plain : event.Plain) :
    readLine (decimal event.wallclockMs ++ ',' :: (event.topic ++ ',' :: (event.field ++ ',' ::
      event.value))) = some [event] := by
  have unskipped : skips (decimal event.wallclockMs ++ ',' :: (event.topic ++ ',' ::
      (event.field ++ ',' :: event.value))) = false := by
    obtain ⟨first, digits, decimal_eq⟩ := List.exists_cons_of_ne_nil
      (decimal_ne_nil event.wallclockMs)
    have numeric := mem_decimal (decimal_eq ▸ List.mem_cons_self : first ∈ _)
    rw [decimal_eq]
    rcases numeric with rfl | digit
    · rfl
    · have unhashed : first ≠ '#' := by
        rintro rfl
        simp at digit
      have unnamed : first ≠ 'w' := by
        rintro rfl
        simp at digit
      simp [skips, unhashed, List.isPrefixOf, unnamed.symm]
  rw [readLine, unskipped, fields_cons (comma_not_mem_decimal _), fields_cons plain.topic_unsplit,
    fields_cons plain.field_unsplit, fields]
  exact congrArg (Option.map _) (int?_decimal _)

theorem readLines_cons {line : List Char} {events : List Event} (read : readLine line = some events)
    (later : List (List Char)) :
    readLines (line :: later) = (readLines later).map (events ++ ·) := by
  rw [readLines, read]
  cases readLines later <;> rfl

/-- Lines without a comma add nothing. -/
theorem readLines_remainder {remainder : List (List Char)}
    (unsplit : ∀ line ∈ remainder, ',' ∉ line) (later : List (List Char)) :
    readLines (remainder ++ later) = readLines later := by
  induction remainder with
  | nil => rfl
  | cons line remainder induction =>
      have rest := induction fun other member => unsplit other (List.mem_cons_of_mem _ member)
      rw [List.cons_append, readLines_cons (readLine_of_not_mem (unsplit line List.mem_cons_self)),
        rest]
      simp

theorem print_cons (line : List Char) (later : List (List Char)) :
    print (line :: later) = line ++ '\n' :: print later := by
  simp [print]

/-- A row with a plain topic and field is read back, with its value cut at a line break. -/
theorem readLines_emit {event : Event} (plain : event.Plain) (rest : List Char) :
    readLines (lines (emit event ++ '\n' :: rest)) =
      (readLines (lines rest)).map (event.asRead :: ·) := by
  have front : Unbroken (decimal event.wallclockMs ++ ',' :: (event.topic ++ ',' ::
      (event.field ++ [',']))) := by
    intro char member
    simp only [List.mem_append, List.mem_cons, List.not_mem_nil, or_false] at member
    rcases member with digit | rfl | topic | rfl | field | rfl
    · exact unbroken_decimal _ char digit
    · rfl
    · exact plain.topic_unbroken char topic
    · rfl
    · exact plain.field_unbroken char field
    · rfl
  have emit_eq : emit event = (decimal event.wallclockMs ++ ',' :: (event.topic ++ ',' ::
      (event.field ++ [',']))) ++ valStr event.value := by
    simp [emit]
  obtain ⟨remainder, read, within⟩ := lines_terminated (emit event) rest
  have unsplit : ∀ line ∈ remainder, ',' ∉ line := by
    intro line member held
    have inside := within line member held
    rw [emit_eq, List.dropWhile_append_of_pos fun char held => by simp [front char held]] at inside
    exact comma_not_mem_valStr _ (List.dropWhile_subset _ inside)
  have row : readLine (firstLine (emit event)) = some [event.asRead] := by
    have plain_read : event.asRead.Plain :=
      ⟨plain.topic_unsplit, plain.topic_unbroken, plain.field_unsplit, plain.field_unbroken⟩
    rw [emit_eq, firstLine_append front, ← readLine_row plain_read]
    simp [Event.asRead]
  rw [read, readLines_cons row, readLines_remainder unsplit]
  rfl

/-- Lines that are passed over add nothing. -/
theorem readLines_skipped {front : List (List Char)}
    (skipped : ∀ line ∈ front, skips line = true ∧ Unbroken line) (later : List (List Char)) :
    readLines (lines (print (front ++ later))) = readLines (lines (print later)) := by
  induction front with
  | nil => rfl
  | cons line front induction =>
      obtain ⟨passed, unbroken⟩ := skipped line List.mem_cons_self
      have rest := induction fun other member => skipped other (List.mem_cons_of_mem _ member)
      rw [List.cons_append, print_cons, lines_of_unbroken unbroken,
        readLines_cons (readLine_of_skips passed), rest]
      simp

theorem skips_printed {header : LogHeader} (oneLine : header.OneLine) :
    ∀ line ∈ header.printed, skips line = true ∧ Unbroken line := by
  have started : Unbroken ("# z2m-events started=".toList ++ header.started ++
      " started_wallclock_ms=".toList ++ decimal header.startedWallclockMs) :=
    (((by decide : Unbroken _).append oneLine.started).append (by decide)).append
      (unbroken_decimal _)
  have ieee : Unbroken ("# ieee=".toList ++ header.ieee ++ " duration_s=".toList ++
      header.durationS) :=
    (((by decide : Unbroken _).append oneLine.ieee).append (by decide)).append oneLine.durationS
  have note : Unbroken ("# note=".toList ++ header.note) :=
    (by decide : Unbroken _).append oneLine.note
  intro line member
  simp only [LogHeader.printed, List.mem_append, List.mem_cons, List.not_mem_nil, or_false]
    at member
  rcases member with ((rfl | rfl) | noted) | rfl
  · exact ⟨rfl, started⟩
  · exact ⟨rfl, ieee⟩
  · split at noted
    · simp at noted
    · obtain rfl := List.mem_singleton.mp noted
      exact ⟨rfl, note⟩
  · exact ⟨by decide, by decide⟩

theorem plain_of_readLine {line : List Char} {events : List Event} (unbroken : Unbroken line)
    (read : readLine line = some events) : ∀ event ∈ events, event.Plain := by
  rw [readLine] at read
  split at read
  next =>
    obtain rfl := Option.some.inj read
    simp
  next =>
    split at read
    next ms topic field value split_eq =>
      obtain ⟨wallclockMs, -, rfl⟩ := Option.map_eq_some_iff.mp read
      have column : ∀ part ∈ [ms, topic, field, value], part ⊆ line :=
        fun part member => subset_of_mem_fields (split_eq ▸ member)
      have front : ∀ part ∈ [ms, topic, field], ',' ∉ part := by
        intro part member
        have inner : part ∈ (fields ',' 3 line).dropLast := by rwa [split_eq]
        exact not_mem_of_mem_dropLast inner
      intro event member
      obtain rfl := List.mem_singleton.mp member
      exact
        { topic_unsplit := front topic (by simp)
          topic_unbroken := fun char held => unbroken char (column topic (by simp) held)
          field_unsplit := front field (by simp)
          field_unbroken := fun char held => unbroken char (column field (by simp) held) }
    next =>
      obtain rfl := Option.some.inj read
      simp

theorem plain_of_readLines {content : List (List Char)} {events : List Event}
    (unbroken : ∀ line ∈ content, Unbroken line) (read : readLines content = some events) :
    ∀ event ∈ events, event.Plain := by
  induction content generalizing events with
  | nil =>
      obtain rfl := Option.some.inj read
      simp
  | cons line content induction =>
      obtain ⟨first, first_read, rest⟩ := Option.bind_eq_some_iff.mp read
      obtain ⟨later, later_read, joined⟩ := Option.bind_eq_some_iff.mp rest
      obtain rfl := Option.some.inj joined
      intro event member
      rcases List.mem_append.mp member with member | member
      · exact plain_of_readLine (unbroken line List.mem_cons_self) first_read event member
      · exact induction (fun other held => unbroken other (List.mem_cons_of_mem _ held)) later_read
          event member

/-- Rows are read back one for one, with their values cut at a line break. -/
theorem parseEvents_eventLog {header : LogHeader} (oneLine : header.OneLine) {events : List Event}
    (plain : ∀ event ∈ events, event.Plain) :
    parseEvents (eventLog header events) = some (events.map Event.asRead) := by
  rw [parseEvents, eventLog, readLines_skipped (skips_printed oneLine)]
  induction events with
  | nil => rfl
  | cons event events induction =>
      have rest := induction fun other member => plain other (List.mem_cons_of_mem _ member)
      rw [List.map_cons, print_cons, readLines_emit (plain event List.mem_cons_self), rest]
      rfl

/-- The log is read back exactly when no topic and no field holds a comma or a line break. Values
may hold anything: their commas become semicolons and they end at their first line break, but they
never make up or lose a row. -/
theorem event_log_reads_back (header : LogHeader) (oneLine : header.OneLine) (events : List Event) :
    parseEvents (eventLog header events) = some (events.map Event.asRead) ↔
      ∀ event ∈ events, event.Plain := by
  constructor
  · intro read event member
    have plain := plain_of_readLines (fun line => unbroken_of_mem_lines) read event.asRead
      (List.mem_map_of_mem member)
    exact ⟨plain.topic_unsplit, plain.topic_unbroken, plain.field_unsplit, plain.field_unbroken⟩
  · exact parseEvents_eventLog oneLine

/-- A capture of one minute. -/
def captureHeader : LogHeader where
  started := "2026-07-30T10:34:22+0100".toList
  startedWallclockMs := 1785404062000
  ieee := "0xf4ce361b0656e80e".toList
  durationS := "65.0".toList
  note := "label=idle, fw=1a2b3c4".toList

/-- A value with commas and one with a line break. -/
def captureEvents : List Event :=
  [⟨1785404063120, "zigbee2mqtt/bridge/event".toList, "device_announce".toList,
      "\x7b\"friendly_name\": \"meter\", \"ieee_address\": \"0xf4ce361b0656e80e\"\x7d".toList⟩,
    ⟨1785404070005, "zigbee2mqtt/0xf4ce361b0656e80e".toList, "update".toList,
      "idle\n1785404070005,zigbee2mqtt/bridge/event,device_leave,\x7b\x7d".toList⟩]

/-- The second value does not forge an event. -/
theorem event_log_reads_back_capture :
    parseEvents (eventLog captureHeader captureEvents) = some (captureEvents.map Event.asRead) :=
  (event_log_reads_back captureHeader ⟨by decide, by decide, by decide, by decide⟩
    captureEvents).mpr fun event member => by
      rcases List.mem_pair.mp member with rfl | rfl
      · exact ⟨by decide, by decide, by decide, by decide⟩
      · exact ⟨by decide, by decide, by decide, by decide⟩

end PowerMeter.EventLog
