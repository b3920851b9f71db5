import Mathlib.Data.List.Basic
import PowerMeter.Foundations.IntelHex

/-!
# The address check of the SWD flash script

`tools/flash-swd.sh` reads an Intel HEX file line by line, keeps the base address of the last type
02 or 04 record, and judges the file by the start address of its first data record.
-/

namespace PowerMeter.FlashGuard

open IntelHex

/-- `MIN_APP_ADDR`. -/
def minAppAddr : ℕ := 0x27000

/-- `${line:first:count}`. -/
def substring (line : List Char) (first count : ℕ) : List Char := (line.drop first).take count

/-- How the loop over the lines ends. It is not followed past an address field that is no
hexadecimal number, which bash arithmetic may reject or read as an expression; no well-formed file
has one. -/
inductive Scan
  | notHexadecimal
  | noDataRecord
  | startAddr (address : ℕ)
  deriving DecidableEq

/-- The loop over the lines `read` returns. -/
def scan (base : ℕ) : List (List Char) → Scan
  | [] => .noDataRecord
  | line :: lines =>
      if substring line 0 1 ≠ [':'] then scan base lines
      else if substring line 7 2 = ['0', '2'] then
        match number? (substring line 9 4) with
        | none => .notHexadecimal
        | some value => scan (value <<< 4) lines
      else if substring line 7 2 = ['0', '4'] then
        match number? (substring line 9 4) with
        | none => .notHexadecimal
        | some value => scan (value <<< 16) lines
      else if substring line 7 2 = ['0', '0'] then
        match number? (substring line 3 4) with
        | none => .notHexadecimal
        | some offset => .startAddr (base + offset)
      else scan base lines

/-- Why the script stops before it flashes. -/
inductive Refusal
  | notHexadecimal
  | noDataRecord
  | belowFloor (start : ℕ)
  deriving DecidableEq

/-- The address-safety check: the start address it prints, or its refusal. -/
def check (content : List Char) : Except Refusal ℕ :=
  match scan 0 (terminatedLines content) with
  | .notHexadecimal => .error .notHexadecimal
  | .noDataRecord => .error .noDataRecord
  | .startAddr start => if start < minAppAddr then .error (.belowFloor start) else .ok start

/-- The check lets the file through. -/
def Accepts (content : List Char) : Prop := ∃ start, check content = .ok start

/-- The start address of the first data record decides. -/
def scanOf : List Placement → Scan
  | [] => .noDataRecord
  | placement :: _ => .startAddr placement.start

theorem substring_of_record {line : List Char} {record : Record}
    (reads : Record.ofLine? (stripReturn line) = some record) :
    substring line 0 1 = [':'] ∧
      (∃ type₀ type₁, substring line 7 2 = [type₀, type₁] ∧
        byte? type₀ type₁ = some record.kind.code) ∧
      number? (substring line 3 4) = some record.offset ∧
      (record.data.length = 2 → number? (substring line 9 4) = some record.word) := by
  obtain ⟨ending, line_eq⟩ := stripReturn_append line
  obtain ⟨_, _, address₀, address₁, address₂, address₃, type₀, type₁, rest, checksum,
    stripped_eq, high, low, code, spelled⟩ := Record.layout reads
  rw [line_eq, stripped_eq]
  refine ⟨rfl, ⟨type₀, type₁, rfl, code⟩, number?_of_bytes high low, ?_⟩
  intro two
  obtain ⟨upper, lower, data_eq⟩ := List.length_eq_two.mp two
  rw [data_eq] at spelled
  obtain ⟨digit₀, digit₁, _, rfl, first, spelled⟩ := bytes?_cons spelled
  obtain ⟨digit₂, digit₃, _, rfl, second, spelled⟩ := bytes?_cons spelled
  refine (number?_of_bytes first second).trans ?_
  simp [Record.word, data_eq]

/-- On a well-formed line the loop takes the arm of the record's type. -/
theorem scan_cons {line : List Char} {record : Record}
    (reads : Record.ofLine? (stripReturn line) = some record) (base : ℕ)
    (lines : List (List Char)) :
    scan base (line :: lines) =
      match record.kind with
      | .data => .startAddr (base + record.offset)
      | .extendedSegment => scan (record.word * 16) lines
      | .extendedLinear => scan (record.word * 65536) lines
      | .endOfFile | .startSegment | .startLinear => scan base lines := by
  obtain ⟨colon, ⟨type₀, type₁, type_eq, code⟩, offset, word⟩ := substring_of_record reads
  have zero : (type₀ = '0' ∧ type₁ = '0') ↔ record.kind.code.toNat = 0 :=
    byte?_digits_iff code 0 (by omega)
  have two : (type₀ = '0' ∧ type₁ = '2') ↔ record.kind.code.toNat = 2 :=
    byte?_digits_iff code 2 (by omega)
  have four : (type₀ = '0' ∧ type₁ = '4') ↔ record.kind.code.toNat = 4 :=
    byte?_digits_iff code 4 (by omega)
  have admitted := record.admitted
  rw [scan, colon, type_eq, offset, if_neg (not_not_intro rfl)]
  simp only [List.cons.injEq, and_true, zero, two, four]
  cases kind : record.kind with
  | data | endOfFile | startSegment | startLinear => rfl
  | extendedSegment | extendedLinear =>
      rw [kind] at admitted
      rw [word (of_decide_eq_true admitted)]
      simp only [Nat.shiftLeft_eq]
      rfl

theorem scan_eq {lines : List (List Char)} {records : List Record}
    (parses : parseLines lines = some records) (base : ℕ) :
    scan base lines = scanOf (placements base records) := by
  induction lines generalizing base records with
  | nil =>
      obtain rfl : [] = records := Option.some.inj parses
      rfl
  | cons line lines induction =>
      obtain ⟨record, rest, reads, others, rfl⟩ := parseLines_cons.mp parses
      rw [scan_cons reads, placements]
      cases record.kind with
      | data => rfl
      | extendedSegment | extendedLinear | endOfFile | startSegment | startLinear =>
          exact induction others _

/-- A well-formed file is let through when its first data record starts at or above the floor. -/
theorem accepts_iff {content : List Char} {records : List Record}
    (wellFormed : WellFormed content records) :
    Accepts content ↔
      ∃ first, (placements 0 records).head? = some first ∧ minAppAddr ≤ first.start := by
  have scanned : scan 0 (terminatedLines content) = scanOf (placements 0 records) := by
    rcases wellFormed.terminated with all | front
    · exact scan_eq all 0
    · rw [scan_eq front 0, placements_dropLast wellFormed.ends]
  rw [Accepts, check, scanned]
  cases placements 0 records with
  | nil => simp [scanOf]
  | cons first later =>
      simp only [scanOf, List.head?_cons, Option.some.injEq, exists_eq_left']
      split_ifs with below
      · simp [Nat.not_le.mpr below]
      · simp [Nat.not_lt.mp below]

/-- Every data record of the file lies at or above the floor. -/
def Safe (records : List Record) : Prop :=
  ∀ placement ∈ placements 0 records, placement.LiesAbove minAppAddr

/-- A nonempty data record below the floor comes after a first data record at or above it. -/
def HidesLowRecord (records : List Record) : Prop :=
  ∃ first later, placements 0 records = first :: later ∧ minAppAddr ≤ first.start ∧
    ∃ placement ∈ later, 0 < placement.length ∧ placement.start < minAppAddr

/-- The check is right about a file exactly when no low record hides behind a high first one. -/
theorem accepts_safe_iff {content : List Char} {records : List Record}
    (wellFormed : WellFormed content records) :
    (Accepts content → Safe records) ↔ ¬ HidesLowRecord records := by
  rw [accepts_iff wellFormed, HidesLowRecord, Safe]
  cases placements 0 records with
  | nil => simp
  | cons first later =>
      constructor
      · rintro safe ⟨_, _, same, high, placement, member, nonempty, low⟩
        obtain ⟨rfl, rfl⟩ := List.cons.inj same
        have above := safe ⟨_, rfl, high⟩ placement (List.mem_cons_of_mem _ member)
        rcases (placement.liesAbove_iff minAppAddr).mp above with empty | start_le
        · omega
        · omega
      · rintro hides ⟨_, head, high⟩ placement member
        obtain rfl := Option.some.inj head
        rw [Placement.liesAbove_iff]
        rcases List.mem_cons.mp member with rfl | member
        · exact .inr high
        · by_contra low
          rw [not_or] at low
          exact hides ⟨first, later, rfl, high, placement, member, Nat.pos_of_ne_zero low.1,
            Nat.lt_of_not_le low.2⟩

/-- An application image: sixteen bytes at 0x30000. -/
def appRecords : List Record :=
  [⟨0, 0, .extendedLinear, [0, 3], rfl⟩, ⟨0, 0, .data, List.replicate 16 0, rfl⟩,
    ⟨0, 0, .endOfFile, [], rfl⟩]

theorem wellFormed_app : WellFormed (fileOf appRecords) appRecords :=
  wellFormed_fileOf ⟨appRecords.take 2, _, rfl, rfl, by decide⟩

theorem accepts_safe_iff_app :
    Accepts (fileOf appRecords) ∧ (Accepts (fileOf appRecords) → Safe appRecords) := by
  refine ⟨(accepts_iff wellFormed_app).mpr ⟨_, rfl, by decide⟩,
    (accepts_safe_iff wellFormed_app).mpr ?_⟩
  rintro ⟨_, _, same, -, placement, member, -⟩
  obtain ⟨-, rfl⟩ := List.cons.inj same
  exact List.not_mem_nil member

/-- A merged image that is not sorted: a byte of the application, then a byte of the MBR. -/
def mergedRecords : List Record :=
  [⟨0, 0, .extendedLinear, [0, 3], rfl⟩, ⟨0, 0, .data, [0], rfl⟩,
    ⟨0, 0, .extendedLinear, [0, 0], rfl⟩, ⟨0, 0, .data, [0], rfl⟩, ⟨0, 0, .endOfFile, [], rfl⟩]

/-- The check lets the merged image through although its last data record lies at address 0. -/
theorem merged_image_accepted :
    Accepts (fileOf mergedRecords) ∧ ¬ Safe mergedRecords ∧
      ¬ ∀ content records, WellFormed content records → Accepts content → Safe records := by
  have wellFormed : WellFormed (fileOf mergedRecords) mergedRecords :=
    wellFormed_fileOf ⟨mergedRecords.take 4, _, rfl, rfl, by decide⟩
  have accepted : Accepts (fileOf mergedRecords) :=
    (accepts_iff wellFormed).mpr ⟨_, rfl, by decide⟩
  have low_byte : ¬ Safe mergedRecords := by
    intro safe
    have above := safe ⟨0, 1⟩ (List.mem_cons_of_mem _ List.mem_cons_self)
    exact absurd (above 0 Nat.one_pos) (by decide)
  exact ⟨accepted, low_byte, fun guarded => low_byte (guarded _ _ wellFormed accepted)⟩

end PowerMeter.FlashGuard
