import PowerMeter.Foundations.LineFilters
import PowerMeter.JoinTest

/-!
# The cluster assertion of the join test

`EXPECT_CLUSTERS` makes `tools/test-join.sh` compare the input clusters of the device with a list,
in one of two forms. The flat form names the clusters of the only endpoint. The form by endpoint
names the clusters of each endpoint; its normalization reads the endpoints in a loop over `read`
that does not see the last one, since `tr -d` has deleted the newline at the end.
-/

namespace PowerMeter.JoinTest

open IntelHex (fileLines terminatedLines)
open LineFilters

/-- An endpoint of the device in `bridge/devices`, with its input clusters. -/
structure Endpoint where
  id : List Char
  input : List (List Char)

/-- The endpoints in the order of their ids, without those that have no input clusters. -/
def advertised (endpoints : List Endpoint) : List Endpoint :=
  (endpoints.insertionSort fun left right => left.id ≤ right.id).filter (·.input ≠ [])

/-- An entry of `parts`. -/
def Endpoint.part (endpoint : Endpoint) : List Char :=
  endpoint.id ++ ':' :: [','].intercalate (endpoint.input.insertionSort (· ≤ ·)).dedup

/-- `CLUSTERS` after a poll that found the device. -/
def clustersField (endpoints : List Endpoint) : List Char :=
  [';'].intercalate ((advertised endpoints).map Endpoint.part)

/-- An argument that the builtin `echo` takes for options. -/
def isEchoOption : List Char → Bool
  | '-' :: flag :: flags => (flag :: flags).all (['n', 'e', 'E'].contains ·)
  | _ => false

/-- `echo` with one argument. -/
def echo (text : List Char) : List Char :=
  if isEchoOption text then if 'n' ∈ text then [] else ['\n'] else text ++ ['\n']

/-- `[:space:]`. -/
def isSpace (char : Char) : Bool :=
  char = ' ' || (9 ≤ char.toNat && char.toNat ≤ 13)

/-- `echo` and `tr -d '[:space:]'`. -/
def stripped (text : List Char) : List Char := (echo text).filter (!isSpace ·)

/-- What follows the first colon. -/
def afterColon (line : List Char) : List Char := (line.dropWhile (· ≠ ':')).drop 1

/-- `IFS=: read -r ep cl`, for a line. A colon that ends the line is dropped when it is the only one
in `cl`. -/
def readFields (line : List Char) : List Char × List Char :=
  let rest := afterColon line
  (line.takeWhile (· ≠ ':'),
    if rest.count ':' = 1 ∧ rest.getLast? = some ':' then rest.dropLast else rest)

/-- `sort -u | paste -sd, -` on a list with commas, in a command substitution. -/
def sortedList (list : List Char) : List Char :=
  substitution (pasteSerial ',' (sortUnique (tr ',' '\n' list)))

/-- The body of the loop of `normalize_ep_map`: the line it prints, if it prints one. -/
def normalizeSection (line : List Char) : Option (List Char) :=
  let (ep, cl) := readFields line
  if ep = [] then none else some (ep ++ ':' :: sortedList (echo cl))

/-- `normalize_ep_map`. -/
def normalizeEpMap (map : List Char) : List Char :=
  pasteSerial ';' (sort (unlines
    ((terminatedLines (tr ';' '\n' (stripped map))).filterMap normalizeSection)))

/-- `EP_COUNT`. -/
def epCount (clusters : List Char) : ℕ :=
  ((fileLines (tr ';' '\n' (echo clusters))).filter (':' ∈ ·)).length

/-- `cut -s -d: -f2-`. -/
def cutNames (text : List Char) : List Char :=
  unlines (((fileLines text).filter (':' ∈ ·)).map afterColon)

/-- The comparison with `EXPECT_CLUSTERS`; in the flat form, a device that does not have one
endpoint does not get this far. -/
def clustersMatch (expect clusters : List Char) : Bool :=
  if ':' ∈ echo expect then
    substitution (normalizeEpMap expect) = substitution (normalizeEpMap clusters)
  else epCount clusters = 1 ∧ sortedList (stripped expect) = sortedList (cutNames (echo clusters))

/-- The exit status of a run with `EXPECT_CLUSTERS`, which is empty when it is not set. -/
def exitStatusExpecting (presence : ℕ → Presence) (states : ℕ → StateName)
    (expect clusters : List Char) : ℕ :=
  let status := (run presence states).exitStatus
  if status = 0 ∧ expect ≠ [] ∧ clustersMatch expect clusters = false then 4 else status

/-- A name of letters, digits and underscores. -/
structure PlainName (name : List Char) : Prop where
  nonempty : name ≠ []
  plain : ∀ char ∈ name, char.isAlphanum ∨ char = '_'

instance (name : List Char) : Decidable (PlainName name) :=
  decidable_of_iff (name ≠ [] ∧ name.all (fun char => char.isAlphanum || char = '_') = true) <| by
    constructor
    · rintro ⟨nonempty, plain⟩
      exact ⟨nonempty, by simpa using plain⟩
    · rintro ⟨nonempty, plain⟩
      exact ⟨nonempty, by simpa using plain⟩

/-- The names of the endpoint are plain. -/
structure Endpoint.Plain (endpoint : Endpoint) : Prop where
  id : PlainName endpoint.id
  input : ∀ cluster ∈ endpoint.input, PlainName cluster

/-- An endpoint and the set of its clusters. -/
structure Interface where
  name : List Char
  clusters : Finset (List Char)
  deriving DecidableEq

/-- What the device advertises on an endpoint. -/
def Endpoint.interface (endpoint : Endpoint) : Interface := ⟨endpoint.id, endpoint.input.toFinset⟩

/-- The names that the flat form lists. -/
def flatNames (expect : List Char) : List (List Char) := fileLines (tr ',' '\n' (stripped expect))

/-- The clusters that `cl` lists. -/
def listed (cl : List Char) : List (List Char) :=
  if isEchoOption cl then [[]] else cl.splitOn ','

/-- The endpoint of a section of the form by endpoint, unless it has no name. -/
def interface? (line : List Char) : Option Interface :=
  let (ep, cl) := readFields line
  if ep = [] then none else some ⟨ep, (listed cl).toFinset⟩

/-- The endpoints of a map that the loop reads: all but the last. -/
def compared (map : List Char) : List Interface :=
  ((stripped map).splitOn ';').dropLast.filterMap interface?

/-- The line of an endpoint in a normalized map. -/
def Interface.line (interface : Interface) : List Char :=
  interface.name ++ ':' :: [','].intercalate interface.clusters.sort

/-- The endpoint of a line. -/
def Interface.ofLine (line : List Char) : Interface :=
  ⟨line.takeWhile (· ≠ ':'), ((afterColon line).splitOn ',').toFinset⟩

/-- An endpoint as it is written in a section of a map. -/
structure Interface.Written (interface : Interface) : Prop where
  name : ∀ char ∈ interface.name, char ≠ ':' ∧ char ≠ ';' ∧ char ≠ '\n'
  nonempty : interface.clusters.Nonempty
  clusters : ∀ cluster ∈ interface.clusters, ∀ char ∈ cluster,
    char ≠ ',' ∧ char ≠ ';' ∧ char ≠ '\n'

theorem isSpace_of_mem_stripped {text : List Char} {char : Char} (member : char ∈ stripped text) :
    isSpace char = false := by
  simpa using (List.mem_filter.mp member).2

theorem newline_not_mem_stripped (text : List Char) : '\n' ∉ stripped text := by
  intro member
  exact absurd (isSpace_of_mem_stripped member) (by decide)

theorem sortedList_eq (list : List Char) :
    sortedList list = [','].intercalate (fileLines (tr ',' '\n' list)).toFinset.sort := by
  rw [sortedList, substitution_pasteSerial (by decide), fileLines_sortUnique]

theorem fileLines_tr_echo {separator : Char} {text : List Char}
    (unbroken : '\n' ∉ text) (printed : isEchoOption text = false) :
    fileLines (tr separator '\n' (echo text)) = text.splitOn separator := by
  rw [echo, if_neg (by simp [printed]), fileLines_tr_terminated unbroken]

theorem sortedList_echo {cl : List Char} (unbroken : '\n' ∉ cl) :
    sortedList (echo cl) = [','].intercalate (listed cl).toFinset.sort := by
  rw [sortedList_eq, listed]
  split
  next option =>
    have nothing : fileLines (tr ',' '\n' []) = [] := rfl
    rw [echo, if_pos option]
    split
    · rw [nothing]
      simp
    · rfl
  next printed => rw [fileLines_tr_echo unbroken (by simpa using printed)]

theorem afterColon_subset (line : List Char) : afterColon line ⊆ line := by
  intro char member
  exact List.dropWhile_subset _ (List.mem_of_mem_drop member)

theorem readFields_subset (line : List Char) : (readFields line).2 ⊆ line := by
  rw [readFields]
  split
  · intro char member
    exact afterColon_subset line (List.mem_of_mem_dropLast member)
  · exact afterColon_subset line

theorem normalizeSection_eq {line : List Char} (unbroken : '\n' ∉ line) :
    normalizeSection line = (interface? line).map Interface.line := by
  have inside : '\n' ∉ (readFields line).2 := fun member =>
    unbroken (readFields_subset line member)
  rcases fields : readFields line with ⟨ep, cl⟩
  rw [fields] at inside
  simp only [normalizeSection, interface?, fields, sortedList_echo inside]
  split <;> rfl

theorem written_of_interface? {line : List Char} {interface : Interface}
    (free : ';' ∉ line ∧ '\n' ∉ line) (found : interface? line = some interface) :
    interface.Written := by
  have inside := readFields_subset line
  rcases fields : readFields line with ⟨ep, cl⟩
  rw [fields] at inside
  simp only [interface?, fields] at found
  split at found
  · contradiction
  · obtain rfl := Option.some.inj found
    have name : ep = line.takeWhile (· ≠ ':') := congrArg Prod.fst fields.symm
    have listed_ne : listed cl ≠ [] := by
      rw [listed]
      split <;> simp
    refine ⟨?_, by simpa using listed_ne, ?_⟩
    · intro char member
      have taken : char ∈ line.takeWhile (· ≠ ':') := name ▸ member
      have before := List.mem_takeWhile_imp taken
      have kept : char ∈ line := List.takeWhile_subset _ taken
      exact ⟨of_decide_eq_true before, ne_of_mem_of_not_mem kept free.1,
        ne_of_mem_of_not_mem kept free.2⟩
    · intro cluster member char held
      rw [List.mem_toFinset, listed] at member
      split at member
      · obtain rfl : cluster = [] := by simpa using member
        contradiction
      · have kept : char ∈ line := inside (subset_of_mem_splitOn member held)
        exact ⟨ne_of_mem_of_not_mem held (not_mem_of_mem_splitOn member),
          ne_of_mem_of_not_mem kept free.1, ne_of_mem_of_not_mem kept free.2⟩

theorem written_of_mem_compared {map : List Char} {interface : Interface}
    (member : interface ∈ compared map) : interface.Written := by
  obtain ⟨line, among, found⟩ := List.mem_filterMap.mp member
  have piece := List.mem_of_mem_dropLast among
  exact written_of_interface? ⟨not_mem_of_mem_splitOn piece, fun newline =>
    newline_not_mem_stripped map (subset_of_mem_splitOn piece newline)⟩ found

namespace Interface.Written

variable {interface : Interface} (written : interface.Written)
include written

theorem line_free {char : Char} (other : char = ';' ∨ char = '\n') : char ∉ interface.line := by
  rw [Interface.line, List.mem_append, List.mem_cons, not_or, not_or]
  refine ⟨fun member => ?_, ?_, not_mem_intercalate ?_ fun cluster among member => ?_⟩
  · obtain ⟨-, semicolon, newline⟩ := written.name char member
    exact other.elim semicolon newline
  · rcases other with rfl | rfl <;> decide
  · rcases other with rfl | rfl <;> decide
  · obtain ⟨-, semicolon, newline⟩ :=
      written.clusters cluster ((Finset.mem_sort _).mp among) char member
    exact other.elim semicolon newline

theorem ofLine_line : Interface.ofLine interface.line = interface := by
  have passed : ∀ char ∈ interface.name, decide (char ≠ ':') = true := fun char member =>
    decide_eq_true (written.name char member).1
  have kept : interface.line.takeWhile (· ≠ ':') = interface.name := by
    rw [Interface.line, List.takeWhile_append_of_pos passed]
    simp
  have rest : afterColon interface.line = [','].intercalate interface.clusters.sort := by
    rw [afterColon, Interface.line, List.dropWhile_append_of_pos passed]
    simp
  have pieces : (afterColon interface.line).splitOn ',' = interface.clusters.sort := by
    rw [rest]
    apply List.splitOn_intercalate
    · intro cluster among comma
      exact (written.clusters cluster ((Finset.mem_sort _).mp among) ',' comma).1 rfl
    · exact sort_ne_nil written.nonempty
  rw [Interface.ofLine, kept, pieces, Finset.sort_toFinset]

end Interface.Written

theorem substitution_normalizeEpMap (map : List Char) :
    substitution (normalizeEpMap map) =
      [';'].intercalate (((compared map).map Interface.line).insertionSort (· ≤ ·)) := by
  have lines : (terminatedLines (tr ';' '\n' (stripped map))).filterMap normalizeSection =
      (compared map).map Interface.line := by
    rw [terminatedLines, splitOn_tr (newline_not_mem_stripped map), compared,
      List.map_filterMap]
    apply List.filterMap_congr
    intro line member
    exact normalizeSection_eq fun newline => newline_not_mem_stripped map
      (subset_of_mem_splitOn (List.mem_of_mem_dropLast member) newline)
  rw [normalizeEpMap, lines, substitution_pasteSerial (by decide), fileLines_sort,
    fileLines_unlines]
  intro line member
  obtain ⟨interface, among, rfl⟩ := List.mem_map.mp member
  exact (written_of_mem_compared among).line_free (.inr rfl)

/-- Normalized maps are equal when their endpoints but the last agree up to order. -/
theorem substitution_normalizeEpMap_inj {left right : List Char} :
    substitution (normalizeEpMap left) = substitution (normalizeEpMap right) ↔
      (compared left).Perm (compared right) := by
  have free : ∀ map, ∀ line ∈ ((compared map).map Interface.line).insertionSort (· ≤ ·),
      ';' ∉ line ∧ line ≠ [] := by
    intro map line member
    obtain ⟨interface, among, rfl⟩ := List.mem_map.mp ((List.mem_insertionSort _).mp member)
    exact ⟨(written_of_mem_compared among).line_free (.inl rfl), by simp [Interface.line]⟩
  have read : ∀ map, ((compared map).map Interface.line).map Interface.ofLine = compared map := by
    intro map
    rw [List.map_map, List.map_congr_left, List.map_id]
    intro interface among
    exact (written_of_mem_compared among).ofLine_line
  rw [substitution_normalizeEpMap, substitution_normalizeEpMap,
    intercalate_inj_of_visible (fun line member => (free left line member).1)
      (fun line member => (free right line member).1)
      (fun _ line member => (free left line member).2)
      (fun line member => (free right line member).2),
    insertionSort_eq_iff]
  constructor
  · intro perm
    rw [← read left, ← read right]
    exact perm.map Interface.ofLine
  · exact List.Perm.map Interface.line

theorem isSpace_of_plain {char : Char} (plain : char.isAlphanum ∨ char = '_') :
    isSpace char = false := by
  by_contra space
  have codes : char.toNat ∈ [9, 10, 11, 12, 13, 32] := by
    have either : char = ' ' ∨ 9 ≤ char.toNat ∧ char.toNat ≤ 13 := by
      simpa [isSpace, or_iff_not_imp_left] using space
    rcases either with rfl | ⟨lower, upper⟩
    · decide
    · simp only [List.mem_cons, List.not_mem_nil]
      omega
  have strange : ∀ code ∈ [9, 10, 11, 12, 13, 32],
      ¬ ((Char.ofNat code).isAlphanum ∨ Char.ofNat code = '_') := by decide
  exact strange char.toNat codes (by rwa [Char.ofNat_toNat])

theorem isEchoOption_eq_false {text : List Char} (absent : '-' ∉ text) :
    isEchoOption text = false := by
  cases text with
  | nil => rfl
  | cons first later =>
      rw [isEchoOption.eq_def]
      split
      next same =>
        obtain ⟨rfl, -⟩ := List.cons.inj same
        exact absurd List.mem_cons_self absent
      next => rfl

theorem part_eq (endpoint : Endpoint) : endpoint.part = endpoint.interface.line := by
  rw [Endpoint.part, dedup_insertionSort]
  rfl

theorem mem_advertised {endpoints : List Endpoint} {endpoint : Endpoint}
    (member : endpoint ∈ advertised endpoints) : endpoint ∈ endpoints ∧ endpoint.input ≠ [] := by
  obtain ⟨sorted, nonempty⟩ := List.mem_filter.mp member
  exact ⟨(List.mem_insertionSort _).mp sorted, by simpa using nonempty⟩

theorem PlainName.not_mem {name : List Char} (plain : PlainName name) {char : Char}
    (strange : ¬ (char.isAlphanum ∨ char = '_')) : char ∉ name :=
  fun member => strange (plain.plain char member)

namespace Endpoint.Plain

variable {endpoint : Endpoint} (plain : endpoint.Plain)
include plain

theorem not_mem_list {char : Char} (strange : ¬ (char.isAlphanum ∨ char = '_'))
    (comma : char ≠ ',') : char ∉ [','].intercalate endpoint.interface.clusters.sort := by
  apply not_mem_intercalate comma
  intro cluster among
  exact (plain.input cluster (by simpa [Endpoint.interface] using among)).not_mem strange

theorem not_mem_part {char : Char} (strange : ¬ (char.isAlphanum ∨ char = '_'))
    (comma : char ≠ ',') (colon : char ≠ ':') : char ∉ endpoint.part := by
  rw [part_eq, Interface.line, List.mem_append, List.mem_cons, not_or, not_or]
  exact ⟨plain.id.not_mem strange, colon, plain.not_mem_list strange comma⟩

theorem written (nonempty : endpoint.input ≠ []) : endpoint.interface.Written := by
  refine ⟨fun char member => ?_, by simpa [Endpoint.interface] using nonempty,
    fun cluster among char member => ?_⟩
  · have kept := plain.id.plain char member
    refine ⟨?_, ?_, ?_⟩ <;> rintro rfl <;> exact absurd kept (by decide)
  · have kept := (plain.input cluster (by simpa [Endpoint.interface] using among)).plain char member
    refine ⟨?_, ?_, ?_⟩ <;> rintro rfl <;> exact absurd kept (by decide)

theorem afterColon_part :
    afterColon endpoint.part = [','].intercalate endpoint.interface.clusters.sort := by
  have passed : ∀ char ∈ endpoint.id, decide (char ≠ ':') = true := by
    intro char member
    apply decide_eq_true
    rintro rfl
    exact plain.id.not_mem (by decide) member
  rw [part_eq, Interface.line, afterColon, Endpoint.interface,
    List.dropWhile_append_of_pos passed]
  simp

/-- The section of an endpoint is read back. -/
theorem interface?_part (nonempty : endpoint.input ≠ []) :
    interface? endpoint.part = some endpoint.interface := by
  have rest := plain.afterColon_part
  have no_colon : ':' ∉ [','].intercalate endpoint.interface.clusters.sort :=
    plain.not_mem_list (by decide) (by decide)
  have no_option : isEchoOption ([','].intercalate endpoint.interface.clusters.sort) = false :=
    isEchoOption_eq_false (plain.not_mem_list (by decide) (by decide))
  have read := (plain.written nonempty).ofLine_line
  rw [← part_eq, Interface.ofLine, rest] at read
  have fields : readFields endpoint.part =
      (endpoint.part.takeWhile (· ≠ ':'), [','].intercalate endpoint.interface.clusters.sort) := by
    rw [readFields, rest]
    simp [List.count_eq_zero_of_not_mem no_colon]
  have named : endpoint.part.takeWhile (· ≠ ':') ≠ [] := by
    rw [show endpoint.part.takeWhile (· ≠ ':') = endpoint.id from congrArg Interface.name read]
    exact plain.id.nonempty
  simp only [interface?, fields, if_neg named, listed, no_option]
  exact congrArg some read

end Endpoint.Plain

theorem clustersField_eq_nil {endpoints : List Endpoint}
    (none_advertised : advertised endpoints = []) :
    clustersField endpoints = [] := by
  rw [clustersField, none_advertised]
  rfl

section Device

variable {endpoints : List Endpoint} (plain : ∀ endpoint ∈ endpoints, endpoint.Plain)
include plain

theorem not_mem_clustersField {char : Char} (strange : ¬ (char.isAlphanum ∨ char = '_'))
    (comma : char ≠ ',') (colon : char ≠ ':') (semicolon : char ≠ ';') :
    char ∉ clustersField endpoints := by
  apply not_mem_intercalate semicolon
  intro part member
  obtain ⟨endpoint, among, rfl⟩ := List.mem_map.mp member
  exact (plain endpoint (mem_advertised among).1).not_mem_part strange comma colon

theorem newline_not_mem_clustersField : '\n' ∉ clustersField endpoints :=
  not_mem_clustersField plain (by decide) (by decide) (by decide) (by decide)

theorem isEchoOption_clustersField : isEchoOption (clustersField endpoints) = false :=
  isEchoOption_eq_false
    (not_mem_clustersField plain (by decide) (by decide) (by decide) (by decide))

theorem stripped_clustersField : stripped (clustersField endpoints) = clustersField endpoints := by
  have kept : ∀ char ∈ clustersField endpoints, (!isSpace char) = true := by
    intro char member
    by_cases named : char.isAlphanum ∨ char = '_'
    · simp [isSpace_of_plain named]
    · by_contra space
      have isolated : isSpace char = true := by simpa using space
      refine not_mem_clustersField plain named ?_ ?_ ?_ member <;>
        rintro rfl <;> exact absurd isolated (by decide)
  rw [stripped, echo, if_neg (by simp [isEchoOption_clustersField plain]), List.filter_append,
    List.filter_eq_self.mpr kept]
  simp [isSpace]

theorem splitOn_clustersField (some_advertised : advertised endpoints ≠ []) :
    (clustersField endpoints).splitOn ';' = (advertised endpoints).map Endpoint.part := by
  apply List.splitOn_intercalate
  · intro part member
    obtain ⟨endpoint, among, rfl⟩ := List.mem_map.mp member
    exact (plain endpoint (mem_advertised among).1).not_mem_part (by decide) (by decide) (by decide)
  · simpa using some_advertised

/-- The loop sees all endpoints of the device but the last. -/
theorem compared_clustersField :
    compared (clustersField endpoints) =
      (advertised endpoints).dropLast.map Endpoint.interface := by
  rw [compared, stripped_clustersField plain]
  by_cases none_advertised : advertised endpoints = []
  · rw [clustersField_eq_nil none_advertised, none_advertised]
    rfl
  · rw [splitOn_clustersField plain none_advertised, ← List.map_dropLast, List.filterMap_map,
      ← List.filterMap_eq_map]
    apply List.filterMap_congr
    intro endpoint member
    obtain ⟨among, nonempty⟩ := mem_advertised (List.mem_of_mem_dropLast member)
    exact (plain endpoint among).interface?_part nonempty

theorem epCount_clustersField :
    epCount (clustersField endpoints) = (advertised endpoints).length := by
  rw [epCount, fileLines_tr_echo (newline_not_mem_clustersField plain)
    (isEchoOption_clustersField plain)]
  by_cases none_advertised : advertised endpoints = []
  · rw [clustersField_eq_nil none_advertised, none_advertised]
    rfl
  · rw [splitOn_clustersField plain none_advertised, List.filter_eq_self.mpr, List.length_map]
    intro part member
    obtain ⟨endpoint, -, rfl⟩ := List.mem_map.mp member
    simp [Endpoint.part]

/-- The names that the flat form takes from a device with one endpoint. -/
theorem sortedList_cutNames {endpoint : Endpoint} (alone : advertised endpoints = [endpoint]) :
    sortedList (cutNames (echo (clustersField endpoints))) =
      [','].intercalate endpoint.input.toFinset.sort := by
  obtain ⟨among, nonempty⟩ := mem_advertised (alone ▸ List.mem_singleton_self endpoint)
  have own := plain endpoint among
  have unbroken := newline_not_mem_clustersField plain
  have field : clustersField endpoints = endpoint.part := by
    rw [clustersField, alone]
    exact List.intercalate_singleton
  have lines : fileLines (echo endpoint.part) = [endpoint.part] := by
    rw [← field, echo, if_neg (by simp [isEchoOption_clustersField plain]),
      fileLines_append_newline, List.splitOn_eq_singleton unbroken]
  have colon : ':' ∈ endpoint.part := by simp [Endpoint.part]
  have inner : '\n' ∉ afterColon endpoint.part := fun newline =>
    unbroken (field ▸ afterColon_subset endpoint.part newline)
  have cut : cutNames (echo endpoint.part) = afterColon endpoint.part ++ ['\n'] := by
    rw [cutNames, lines]
    simp [colon, unlines]
  have names : fileLines (tr ',' '\n' (afterColon endpoint.part ++ ['\n'])) =
      endpoint.input.toFinset.sort := by
    rw [fileLines_tr_terminated inner, own.afterColon_part]
    apply List.splitOn_intercalate
    · intro cluster member
      exact (own.input cluster (by simpa [Endpoint.interface] using member)).not_mem (by decide)
    · exact sort_ne_nil (own.written nonempty).nonempty
  rw [field, cut, sortedList_eq, names, Finset.sort_toFinset]

end Device

theorem exitStatusExpecting_eq_zero_iff {presence : ℕ → Presence} {states : ℕ → StateName}
    {expect clusters : List Char} (asserted : expect ≠ []) :
    exitStatusExpecting presence states expect clusters = 0 ↔
      (run presence states).exitStatus = 0 ∧ clustersMatch expect clusters = true := by
  rw [exitStatusExpecting]
  split
  next mismatch => simp [mismatch.2.2]
  next matched =>
    constructor
    · intro passed
      refine ⟨passed, ?_⟩
      by_contra mismatch
      exact matched ⟨passed, asserted, by simpa using mismatch⟩
    · exact And.left

theorem comma_not_mem_flatNames {expect name : List Char} (member : name ∈ flatNames expect) :
    ',' ∉ name := fun comma =>
  not_mem_tr (by decide) (stripped expect) (subset_of_mem_fileLines member comma)

theorem mem_of_isEchoOption {text : List Char} (option : isEchoOption text = true) {char : Char}
    (member : char ∈ text) : char ∈ ['-', 'n', 'e', 'E'] := by
  rw [isEchoOption.eq_def] at option
  split at option
  next flag flags =>
    rcases List.mem_cons.mp member with rfl | member
    · exact List.mem_cons_self
    · exact List.mem_cons_of_mem _ (by simpa using List.all_eq_true.mp option char member)
  next => contradiction

theorem mem_echo_iff {text : List Char} {char : Char} (other : char ∉ ['-', 'n', 'e', 'E', '\n']) :
    char ∈ echo text ↔ char ∈ text := by
  obtain ⟨dash, rest⟩ := not_or.mp (List.mem_cons.not.mp other)
  have newline : char ≠ '\n' := by
    rintro rfl
    exact other (by decide)
  rw [echo]
  split
  next option =>
    refine iff_of_false (by split <;> simp [newline]) fun member => other ?_
    have := mem_of_isEchoOption option member
    simp only [List.mem_cons] at this ⊢
    tauto
  next => simp [newline]

theorem compared_eq_nil {expect : List Char} (single : ';' ∉ expect) : compared expect = [] := by
  have absent : ';' ∉ stripped expect := fun member =>
    single ((mem_echo_iff (by decide)).mp (List.mem_of_mem_filter member))
  rw [compared, List.splitOn_eq_singleton absent]
  rfl

theorem flatNames_match_iff {endpoints : List Endpoint}
    (plain : ∀ endpoint ∈ endpoints, endpoint.Plain) {endpoint : Endpoint}
    (alone : advertised endpoints = [endpoint]) (expect : List Char) :
    sortedList (stripped expect) = sortedList (cutNames (echo (clustersField endpoints))) ↔
      ∀ cluster, cluster ∈ endpoint.input ↔ cluster ∈ flatNames expect := by
  obtain ⟨among, nonempty⟩ := mem_advertised (alone ▸ List.mem_singleton_self endpoint)
  have own := plain endpoint among
  have clusters_ne : endpoint.input.toFinset.sort ≠ [] :=
    sort_ne_nil (own.written nonempty).nonempty
  rw [sortedList_cutNames plain alone, sortedList_eq, ← flatNames, intercalate_inj_of_visible,
    sort_injective.eq_iff, Finset.ext_iff]
  · simp only [List.mem_toFinset, iff_comm]
  · intro name member
    exact comma_not_mem_flatNames (by simpa using member)
  · intro cluster member
    exact (own.input cluster (by simpa using member)).not_mem (by decide)
  · intro empty
    exact absurd empty clusters_ne
  · intro cluster member
    exact (own.input cluster (by simpa using member)).nonempty

/-- The flat form is exact: a run passes when everything before the assertion passes and the device
advertises input clusters on one endpoint only, and these are the ones that are listed. -/
theorem flat_form (presence : ℕ → Presence) (states : ℕ → StateName) {endpoints : List Endpoint}
    (plain : ∀ endpoint ∈ endpoints, endpoint.Plain) {expect : List Char}
    (asserted : expect ≠ []) (flat : ':' ∉ expect) :
    exitStatusExpecting presence states expect (clustersField endpoints) = 0 ↔
      (run presence states).exitStatus = 0 ∧ ∃ endpoint, advertised endpoints = [endpoint] ∧
        ∀ cluster, cluster ∈ endpoint.input ↔ cluster ∈ flatNames expect := by
  rw [exitStatusExpecting_eq_zero_iff asserted, clustersMatch,
    if_neg (by rwa [mem_echo_iff (by decide)]), decide_eq_true_eq, epCount_clustersField plain,
    List.length_eq_one_iff]
  apply and_congr_right
  intro _
  constructor
  · rintro ⟨⟨endpoint, alone⟩, same⟩
    exact ⟨endpoint, alone, (flatNames_match_iff plain alone expect).mp same⟩
  · rintro ⟨endpoint, alone, same⟩
    exact ⟨⟨endpoint, alone⟩, (flatNames_match_iff plain alone expect).mpr same⟩

/-- The only endpoint of a meter. -/
def meterEndpoint : Endpoint := ⟨"10".toList, ["seMetering".toList, "genBasic".toList]⟩

theorem meterEndpoint_plain : ∀ endpoint ∈ [meterEndpoint], endpoint.Plain := by
  intro endpoint member
  obtain rfl := List.mem_singleton.mp member
  refine ⟨by decide, fun cluster among => ?_⟩
  rcases List.mem_pair.mp among with rfl | rfl <;> decide

/-- An interview that succeeds on the second poll. -/
def joiningStates (poll : ℕ) : StateName := if poll = 0 then .notJoined else .successful

/-- The order of the names does not matter, and neither does white space. -/
theorem flat_form_meter :
    exitStatusExpecting (fun _ => .gone) joiningStates "genBasic, seMetering".toList
      (clustersField [meterEndpoint]) = 0 := by
  have names : flatNames "genBasic, seMetering".toList =
      ["genBasic".toList, "seMetering".toList] := by decide
  refine (flat_form _ _ meterEndpoint_plain (by decide) (by decide)).mpr
    ⟨by decide, meterEndpoint, rfl, fun cluster => ?_⟩
  rw [names, meterEndpoint, List.mem_pair, List.mem_pair, or_comm]

/-- The form by endpoint is not: it leaves the last endpoint of the expectation and the last one of
the device out of the comparison. An expectation of a single endpoint accepts every device with at
most one, whatever its clusters are. -/
theorem endpoint_form (presence : ℕ → Presence) (states : ℕ → StateName)
    {endpoints : List Endpoint} (plain : ∀ endpoint ∈ endpoints, endpoint.Plain)
    {expect : List Char} (pinned : ':' ∈ expect) :
    (exitStatusExpecting presence states expect (clustersField endpoints) = 0 ↔
      (run presence states).exitStatus = 0 ∧
        (compared expect).Perm ((advertised endpoints).dropLast.map Endpoint.interface)) ∧
    (';' ∉ expect →
      (exitStatusExpecting presence states expect (clustersField endpoints) = 0 ↔
        (run presence states).exitStatus = 0 ∧ (advertised endpoints).length ≤ 1)) := by
  have asserted : expect ≠ [] := List.ne_nil_of_mem pinned
  have exact_form : exitStatusExpecting presence states expect (clustersField endpoints) = 0 ↔
      (run presence states).exitStatus = 0 ∧
        (compared expect).Perm ((advertised endpoints).dropLast.map Endpoint.interface) := by
    rw [exitStatusExpecting_eq_zero_iff asserted, clustersMatch,
      if_pos ((mem_echo_iff (by decide)).mpr pinned), decide_eq_true_eq,
      substitution_normalizeEpMap_inj, compared_clustersField plain]
  refine ⟨exact_form, fun single => exact_form.trans (and_congr_right fun _ => ?_)⟩
  rw [compared_eq_nil single, List.nil_perm, List.map_eq_nil_iff, ← List.length_eq_zero_iff,
    List.length_dropLast]
  omega

/-- An expectation of another cluster accepts the meter. -/
theorem endpoint_form_meter :
    exitStatusExpecting (fun _ => .gone) joiningStates "10:genOnOff".toList
      (clustersField [meterEndpoint]) = 0 :=
  ((endpoint_form _ _ meterEndpoint_plain (by decide)).2 (by decide)).mpr ⟨by decide, by decide⟩

end PowerMeter.JoinTest
