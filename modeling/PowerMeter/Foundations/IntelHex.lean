import Mathlib.Data.Nat.Notation
import Mathlib.Tactic.ByContra
import Mathlib.Tactic.SplitIfs

/-!
# Intel HEX files

A file is a sequence of lines, each the hexadecimal spelling of a record with a checksum. Records
of type 02 and 04 set the base address of the data records after them.
-/

namespace IntelHex

section Digits

/-- The value of a hexadecimal digit, in either letter case. -/
def digit? (digit : Char) : Option ℕ :=
  if 48 ≤ digit.toNat ∧ digit.toNat ≤ 57 then some (digit.toNat - 48)
  else if 65 ≤ digit.toNat ∧ digit.toNat ≤ 70 then some (digit.toNat - 55)
  else if 97 ≤ digit.toNat ∧ digit.toNat ≤ 102 then some (digit.toNat - 87)
  else none

/-- The number a list of digits spells, most significant digit first. -/
def number? (digits : List Char) : Option ℕ :=
  digits.foldlM (fun value digit => (digit? digit).map (16 * value + ·)) 0

/-- The byte two digits spell. -/
def byte? (high low : Char) : Option UInt8 :=
  match digit? high, digit? low with
  | some high, some low => some (UInt8.ofNat (16 * high + low))
  | _, _ => none

/-- The bytes a list of digits spells, two digits for each. -/
def bytes? : List Char → Option (List UInt8)
  | [] => some []
  | [_] => none
  | high :: low :: digits =>
      match byte? high low, bytes? digits with
      | some byte, some bytes => some (byte :: bytes)
      | _, _ => none

/-- The upper-case digit of a value below sixteen. -/
def hexDigit (value : ℕ) : Char :=
  if value < 10 then Char.ofNat (48 + value) else Char.ofNat (55 + value)

/-- The two digits of a byte. -/
def hexByte (byte : UInt8) : List Char :=
  [hexDigit (byte.toNat / 16), hexDigit (byte.toNat % 16)]

theorem digit?_hexDigit {value : ℕ} (below : value < 16) :
    digit? (hexDigit value) = some value := by
  have all : ∀ value : Fin 16, digit? (hexDigit value) = some value.val := by decide
  exact all ⟨value, below⟩

theorem digit?_lt {digit : Char} {value : ℕ} (spells : digit? digit = some value) : value < 16 := by
  unfold digit? at spells
  split_ifs at spells <;> simp only [Option.some.injEq] at spells <;> omega

/-- Below ten there is one digit for each value. -/
theorem digit?_eq_some_iff {digit : Char} {value : ℕ} (decimal : value < 10) :
    digit? digit = some value ↔ digit = Char.ofNat (48 + value) := by
  constructor
  · intro spells
    have code : digit.toNat = 48 + value := by
      unfold digit? at spells
      split_ifs at spells <;> simp only [Option.some.injEq] at spells <;> omega
    rw [← code, Char.ofNat_toNat]
  · rintro rfl
    have spelled := digit?_hexDigit (Nat.lt_trans decimal (by omega))
    rwa [hexDigit, if_pos decimal] at spelled

theorem byte?_eq_some {high low : Char} {byte : UInt8} (spells : byte? high low = some byte) :
    ∃ highValue lowValue, digit? high = some highValue ∧ digit? low = some lowValue ∧
      byte.toNat = 16 * highValue + lowValue := by
  unfold byte? at spells
  cases first : digit? high with
  | none => simp [first] at spells
  | some highValue =>
      cases second : digit? low with
      | none => simp [first, second] at spells
      | some lowValue =>
          simp only [first, second, Option.some.injEq] at spells
          have below := digit?_lt first
          have below' := digit?_lt second
          refine ⟨highValue, lowValue, rfl, rfl, ?_⟩
          rw [← spells, UInt8.toNat_ofNat', Nat.mod_eq_of_lt (by omega)]

/-- The digits of a byte below ten. -/
theorem byte?_digits_iff {high low : Char} {byte : UInt8} (spells : byte? high low = some byte)
    (value : ℕ) (decimal : value < 10) :
    (high = '0' ∧ low = Char.ofNat (48 + value)) ↔ byte.toNat = value := by
  obtain ⟨highValue, lowValue, first, second, byte_eq⟩ := byte?_eq_some spells
  have zero : digit? high = some 0 ↔ high = '0' := digit?_eq_some_iff (by omega)
  have below := digit?_lt second
  rw [← zero, ← digit?_eq_some_iff decimal, first, second, byte_eq, Option.some.injEq,
    Option.some.injEq]
  omega

theorem bytes?_hexByte (byte : UInt8) (digits : List Char) :
    bytes? (hexByte byte ++ digits) = (bytes? digits).map (byte :: ·) := by
  have below := byte.toNat_lt
  have whole : 16 * (byte.toNat / 16) + byte.toNat % 16 = byte.toNat := Nat.div_add_mod _ _
  have spelled : byte? (hexDigit (byte.toNat / 16)) (hexDigit (byte.toNat % 16)) = some byte := by
    rw [byte?, digit?_hexDigit (by omega), digit?_hexDigit (by omega)]
    simp only [whole, UInt8.ofNat_toNat]
  simp only [hexByte, List.cons_append, List.nil_append, bytes?, spelled]
  cases bytes? digits with
  | none => rfl
  | some bytes => rfl

theorem bytes?_flatMap_hexByte (bytes : List UInt8) :
    bytes? (bytes.flatMap hexByte) = some bytes := by
  induction bytes with
  | nil => rfl
  | cons byte bytes induction => rw [List.flatMap_cons, bytes?_hexByte, induction, Option.map_some]

theorem bytes?_cons {digits : List Char} {byte : UInt8} {bytes : List UInt8}
    (spells : bytes? digits = some (byte :: bytes)) :
    ∃ high low rest, digits = high :: low :: rest ∧ byte? high low = some byte ∧
      bytes? rest = some bytes := by
  match digits with
  | [] => simp [bytes?] at spells
  | [_] => simp [bytes?] at spells
  | high :: low :: rest =>
      rw [bytes?] at spells
      cases first : byte? high low with
      | none => simp [first] at spells
      | some found =>
          cases others : bytes? rest with
          | none => simp [first, others] at spells
          | some tail =>
              simp only [first, others, Option.some.injEq, List.cons.injEq] at spells
              obtain ⟨rfl, rfl⟩ := spells
              exact ⟨high, low, rest, rfl, first, others⟩

/-- The digits of two bytes spell the number the bytes are the halves of. -/
theorem number?_of_bytes {digit₀ digit₁ digit₂ digit₃ : Char} {high low : UInt8}
    (first : byte? digit₀ digit₁ = some high) (second : byte? digit₂ digit₃ = some low) :
    number? [digit₀, digit₁, digit₂, digit₃] = some (256 * high.toNat + low.toNat) := by
  obtain ⟨value₀, value₁, spells₀, spells₁, high_eq⟩ := byte?_eq_some first
  obtain ⟨value₂, value₃, spells₂, spells₃, low_eq⟩ := byte?_eq_some second
  simp only [number?, List.foldlM_cons, List.foldlM_nil, spells₀, spells₁, spells₂, spells₃,
    Option.map_some, Option.bind_eq_bind, Option.bind_some, Option.pure_def, Option.some.injEq]
  omega

end Digits

/-- The record types. -/
inductive Kind
  | data
  | endOfFile
  | extendedSegment
  | startSegment
  | extendedLinear
  | startLinear
  deriving DecidableEq

namespace Kind

/-- All record types. -/
def all : List Kind :=
  [data, endOfFile, extendedSegment, startSegment, extendedLinear, startLinear]

/-- The type byte of a record. -/
def code : Kind → UInt8
  | data => 0
  | endOfFile => 1
  | extendedSegment => 2
  | startSegment => 3
  | extendedLinear => 4
  | startLinear => 5

/-- The record type of a type byte. -/
def ofCode? (code : UInt8) : Option Kind := all.find? (fun kind => kind.code = code)

/-- How many data bytes a record of each type has. -/
def admits : Kind → ℕ → Bool
  | data, count => count < 256
  | endOfFile, count => count = 0
  | extendedSegment, count | extendedLinear, count => count = 2
  | startSegment, count | startLinear, count => count = 4

theorem ofCode?_code (kind : Kind) : ofCode? kind.code = some kind := by
  cases kind <;> rfl

theorem code_of_ofCode? {code : UInt8} {kind : Kind} (known : ofCode? code = some kind) :
    kind.code = code := by
  have found := List.find?_some known
  exact of_decide_eq_true found

theorem admits_lt {kind : Kind} {count : ℕ} (admitted : kind.admits count = true) :
    count < 256 := by
  cases kind <;> simp only [admits, decide_eq_true_eq] at admitted <;> omega

end Kind

/-- The sum of bytes, modulo 256. -/
def byteSum : List UInt8 → UInt8
  | [] => 0
  | byte :: bytes => byte + byteSum bytes

theorem byteSum_concat (bytes : List UInt8) (byte : UInt8) :
    byteSum (bytes ++ [byte]) = byteSum bytes + byte := by
  induction bytes with
  | nil => exact (UInt8.add_zero byte).trans (UInt8.zero_add byte).symm
  | cons first bytes induction =>
      rw [List.cons_append, byteSum, byteSum, induction, UInt8.add_assoc]

/-- A record, with as many data bytes as its type admits. -/
structure Record where
  addressHigh : UInt8
  addressLow : UInt8
  kind : Kind
  data : List UInt8
  admitted : kind.admits data.length = true
  deriving DecidableEq

namespace Record

/-- The address field. -/
def offset (record : Record) : ℕ := 256 * record.addressHigh.toNat + record.addressLow.toNat

/-- The number the data bytes of an address record spell. -/
def word (record : Record) : ℕ :=
  record.data.foldl (fun value byte => 256 * value + byte.toNat) 0

/-- All bytes but the checksum. -/
def body (record : Record) : List UInt8 :=
  [UInt8.ofNat record.data.length, record.addressHigh, record.addressLow, record.kind.code] ++
    record.data

/-- The bytes of a record; with the checksum they add up to zero. -/
def bytes (record : Record) : List UInt8 := record.body ++ [-byteSum record.body]

/-- Read a record from its bytes. -/
def ofBytes? : List UInt8 → Option Record
  | count :: high :: low :: code :: rest =>
      match Kind.ofCode? code with
      | none => none
      | some kind =>
          if valid : rest.length = count.toNat + 1 ∧ kind.admits rest.dropLast.length = true ∧
              byteSum (count :: high :: low :: code :: rest) = 0 then
            some ⟨high, low, kind, rest.dropLast, valid.2.1⟩
          else none
  | _ => none

/-- The line of a record. -/
def line (record : Record) : List Char := ':' :: record.bytes.flatMap hexByte

/-- Read a record from a line without its terminator. -/
def ofLine? : List Char → Option Record
  | ':' :: digits => (bytes? digits).bind ofBytes?
  | _ => none

theorem ofBytes?_bytes (record : Record) : ofBytes? record.bytes = some record := by
  rcases record with ⟨high, low, kind, data, admitted⟩
  have below := Kind.admits_lt admitted
  have counted : (UInt8.ofNat data.length).toNat = data.length := by
    rw [UInt8.toNat_ofNat', Nat.mod_eq_of_lt below]
  have cancels (body : List UInt8) : byteSum (body ++ [-byteSum body]) = 0 := by
    rw [byteSum_concat]
    exact UInt8.add_right_neg _
  have sum := cancels ([UInt8.ofNat data.length, high, low, kind.code] ++ data)
  simp only [bytes, body, List.cons_append, List.nil_append] at sum ⊢
  simp only [ofBytes?, Kind.ofCode?_code]
  rw [dif_pos ⟨by simp [counted], by simpa using admitted, sum⟩]
  simp

theorem ofLine?_line (record : Record) : ofLine? record.line = some record := by
  rw [line, ofLine?, bytes?_flatMap_hexByte, Option.bind_some, ofBytes?_bytes]

example : (⟨0, 0, .endOfFile, [], rfl⟩ : Record).line =
    [':', '0', '0', '0', '0', '0', '0', '0', '1', 'F', 'F'] := by decide

/-- The bytes of a record that was read. -/
theorem bytes_of_ofBytes? {bytes : List UInt8} {record : Record}
    (reads : ofBytes? bytes = some record) :
    ∃ count checksum, bytes = count :: record.addressHigh :: record.addressLow ::
      record.kind.code :: (record.data ++ [checksum]) := by
  match bytes with
  | [] | [_] | [_, _] | [_, _, _] => simp [ofBytes?] at reads
  | count :: high :: low :: code :: rest =>
      rw [ofBytes?] at reads
      cases known : Kind.ofCode? code with
      | none => simp [known] at reads
      | some kind =>
          simp only [known] at reads
          split_ifs at reads with valid
          obtain rfl := Option.some.inj reads
          have nonempty : rest ≠ [] := by
            rintro rfl
            exact Nat.succ_ne_zero _ valid.1.symm
          refine ⟨count, rest.getLast nonempty, ?_⟩
          rw [List.dropLast_concat_getLast, Kind.code_of_ofCode? known]

/-- Where the fields of a record stand in its line. -/
theorem layout {line : List Char} {record : Record} (reads : ofLine? line = some record) :
    ∃ count₀ count₁ address₀ address₁ address₂ address₃ type₀ type₁ rest checksum,
      line = ':' :: count₀ :: count₁ :: address₀ :: address₁ :: address₂ :: address₃ ::
        type₀ :: type₁ :: rest ∧
      byte? address₀ address₁ = some record.addressHigh ∧
      byte? address₂ address₃ = some record.addressLow ∧
      byte? type₀ type₁ = some record.kind.code ∧
      bytes? rest = some (record.data ++ [checksum]) := by
  match line with
  | [] => simp [ofLine?] at reads
  | start :: digits =>
      have colon : start = ':' := by
        by_contra other
        simp [ofLine?, other] at reads
      subst colon
      obtain ⟨bytes, spelled, read⟩ := Option.bind_eq_some_iff.mp reads
      obtain ⟨count, checksum, rfl⟩ := bytes_of_ofBytes? read
      obtain ⟨count₀, count₁, _, rfl, -, spelled⟩ := bytes?_cons spelled
      obtain ⟨address₀, address₁, _, rfl, high, spelled⟩ := bytes?_cons spelled
      obtain ⟨address₂, address₃, _, rfl, low, spelled⟩ := bytes?_cons spelled
      obtain ⟨type₀, type₁, rest, rfl, code, spelled⟩ := bytes?_cons spelled
      exact ⟨count₀, count₁, address₀, address₁, address₂, address₃, type₀, type₁, rest, checksum,
        rfl, high, low, code, spelled⟩

/-- A line holds a colon and digits only. -/
theorem mem_line {record : Record} {character : Char} (member : character ∈ record.line) :
    character = ':' ∨ ∃ value < 16, character = hexDigit value := by
  rcases List.mem_cons.mp member with colon | digit
  · exact .inl colon
  · obtain ⟨byte, -, spelled⟩ := List.mem_flatMap.mp digit
    have below := byte.toNat_lt
    simp only [hexByte, List.mem_cons, List.not_mem_nil, or_false] at spelled
    rcases spelled with rfl | rfl
    · exact .inr ⟨byte.toNat / 16, by omega, rfl⟩
    · exact .inr ⟨byte.toNat % 16, by omega, rfl⟩

theorem not_mem_line (record : Record) (character : Char) (colon : character ≠ ':')
    (digits : ∀ value : Fin 16, character ≠ hexDigit value) : character ∉ record.line := by
  intro member
  rcases mem_line member with equal | ⟨value, below, equal⟩
  · exact colon equal
  · exact digits ⟨value, below⟩ equal

end Record

/-- A line without a carriage return at its end. -/
def stripReturn (line : List Char) : List Char :=
  if line.getLast? = some '\r' then line.dropLast else line

theorem stripReturn_append (line : List Char) : ∃ ending, line = stripReturn line ++ ending := by
  rw [stripReturn]
  split_ifs with last
  · refine ⟨['\r'], ?_⟩
    obtain ⟨front, rfl⟩ := List.getLast?_eq_some_iff.mp last
    rw [List.dropLast_concat]
  · exact ⟨[], (List.append_nil line).symm⟩

/-- Read records from the lines of a file. -/
def parseLines : List (List Char) → Option (List Record)
  | [] => some []
  | line :: lines =>
      match Record.ofLine? (stripReturn line), parseLines lines with
      | some record, some records => some (record :: records)
      | _, _ => none

/-- The lines that end in a newline. -/
def terminatedLines (content : List Char) : List (List Char) := (content.splitOn '\n').dropLast

/-- The lines of a file; the last one may lack its newline. -/
def fileLines (content : List Char) : List (List Char) :=
  if (content.splitOn '\n').getLast? = some [] then terminatedLines content
  else content.splitOn '\n'

/-- The end-of-file record is the last record, and the last only. -/
def EndsOnce (records : List Record) : Prop :=
  ∃ front last, records = front ++ [last] ∧ last.kind = .endOfFile ∧
    ∀ record ∈ front, record.kind ≠ .endOfFile

/-- The file holds these records. -/
structure WellFormed (content : List Char) (records : List Record) : Prop where
  parses : parseLines (fileLines content) = some records
  ends : EndsOnce records

/-- The file of a list of records. -/
def fileOf (records : List Record) : List Char :=
  records.flatMap fun record => record.line ++ ['\n']

theorem parseLines_cons {line : List Char} {lines : List (List Char)} {records : List Record} :
    parseLines (line :: lines) = some records ↔
      ∃ record rest, Record.ofLine? (stripReturn line) = some record ∧
        parseLines lines = some rest ∧ records = record :: rest := by
  rw [parseLines]
  cases first : Record.ofLine? (stripReturn line) with
  | none => simp
  | some record =>
      cases others : parseLines lines with
      | none => simp
      | some rest => simp [eq_comm]

/-- Leaving out the last line leaves out the last record. -/
theorem parseLines_dropLast {lines : List (List Char)} {records : List Record}
    (parses : parseLines lines = some records) :
    parseLines lines.dropLast = some records.dropLast := by
  induction lines generalizing records with
  | nil =>
      obtain rfl : [] = records := Option.some.inj parses
      rfl
  | cons line lines induction =>
      obtain ⟨record, rest, first, others, rfl⟩ := parseLines_cons.mp parses
      cases lines with
      | nil =>
          obtain rfl : [] = rest := Option.some.inj others
          rfl
      | cons second lines =>
          obtain ⟨next, tail, -, -, rfl⟩ := parseLines_cons.mp others
          exact parseLines_cons.mpr ⟨record, _, first, induction others, rfl⟩

/-- The terminated lines of a well-formed file spell all its records, or all but the last. -/
theorem WellFormed.terminated {content : List Char} {records : List Record}
    (wellFormed : WellFormed content records) :
    parseLines (terminatedLines content) = some records ∨
      parseLines (terminatedLines content) = some records.dropLast := by
  have parses := wellFormed.parses
  rw [fileLines] at parses
  split_ifs at parses
  · exact .inl parses
  · exact .inr (parseLines_dropLast parses)

theorem splitOn_fileOf (records : List Record) :
    (fileOf records).splitOn '\n' = records.map Record.line ++ [[]] := by
  induction records with
  | nil => rfl
  | cons record records induction =>
      have lineFeed := record.not_mem_line '\n' (by decide) (by decide)
      rw [fileOf, List.flatMap_cons, List.append_assoc, List.singleton_append,
        List.splitOn_append_cons_self_of_not_mem lineFeed]
      exact congrArg (record.line :: ·) induction

theorem stripReturn_line (record : Record) : stripReturn record.line = record.line := by
  have carriageReturn := record.not_mem_line '\r' (by decide) (by decide)
  rw [stripReturn, if_neg fun last => carriageReturn (List.mem_of_getLast? last)]

theorem parseLines_map_line (records : List Record) :
    parseLines (records.map Record.line) = some records := by
  induction records with
  | nil => rfl
  | cons record records induction =>
      refine parseLines_cons.mpr ⟨record, records, ?_, induction, rfl⟩
      rw [stripReturn_line, Record.ofLine?_line]

/-- Every list of records with its end-of-file record last is the content of a file. -/
theorem wellFormed_fileOf {records : List Record} (ends : EndsOnce records) :
    WellFormed (fileOf records) records := by
  refine ⟨?_, ends⟩
  rw [fileLines, terminatedLines, splitOn_fileOf, List.getLast?_concat, if_pos rfl,
    List.dropLast_concat, parseLines_map_line]

/-- Where a data record lies: its start address and its number of bytes. -/
structure Placement where
  start : ℕ
  length : ℕ

/-- The data records of a file in order; the base is that of the most recent address record, and
the bytes follow the start address without a gap. -/
def placements (base : ℕ) : List Record → List Placement
  | [] => []
  | record :: records =>
      match record.kind with
      | .data => ⟨base + record.offset, record.data.length⟩ :: placements base records
      | .extendedSegment => placements (record.word * 16) records
      | .extendedLinear => placements (record.word * 65536) records
      | .endOfFile | .startSegment | .startLinear => placements base records

/-- All bytes of a data record lie at or above an address. -/
def Placement.LiesAbove (placement : Placement) (floor : ℕ) : Prop :=
  ∀ byte < placement.length, floor ≤ placement.start + byte

theorem Placement.liesAbove_iff (placement : Placement) (floor : ℕ) :
    placement.LiesAbove floor ↔ placement.length = 0 ∨ floor ≤ placement.start := by
  constructor
  · intro above
    rcases Nat.eq_zero_or_pos placement.length with empty | nonempty
    · exact .inl empty
    · exact .inr (above 0 nonempty)
  · rintro (empty | start_le) byte before
    · omega
    · omega

/-- An end-of-file record places nothing. -/
theorem placements_concat {front : List Record} {last : Record} (last_kind : last.kind = .endOfFile)
    (base : ℕ) : placements base (front ++ [last]) = placements base front := by
  induction front generalizing base with
  | nil => simp [placements, last_kind]
  | cons record front induction =>
      rw [List.cons_append, placements, placements]
      cases record.kind <;> simp only [induction]

theorem placements_dropLast {records : List Record} (ends : EndsOnce records) (base : ℕ) :
    placements base records.dropLast = placements base records := by
  obtain ⟨front, last, rfl, last_kind, -⟩ := ends
  rw [List.dropLast_concat, placements_concat last_kind]

end IntelHex
