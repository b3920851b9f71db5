import Mathlib.Data.List.Basic
import Mathlib.Data.List.Chain

/-!
# One-slot mailboxes

A producer overwrites a single slot and notifies; a consumer that has been notified reads the slot.
Notifications may merge but never vanish. Reads then follow the publications in order without
outnumbering them, and the last publication is always read. Nothing is lost or repeated when each
publication finds no notification outstanding.
-/

namespace Guarded

/-- The values put into a slot, the values read from it, and the outstanding notifications. -/
structure Mailbox (α : Type*) where
  published : List α
  reads : List α
  tokens : ℕ

namespace Mailbox

variable {α : Type*}

/-- A mailbox nobody has used. -/
def empty : Mailbox α := ⟨[], [], 0⟩

/-- What a step does to the slot. -/
inductive Label (α : Type*)
  | silent
  | publish (value : α)
  | fetch

/-- The steps of a mailbox. -/
inductive Step : Mailbox α → Label α → Mailbox α → Prop
  | silent (box : Mailbox α) : Step box .silent box
  | merge {box : Mailbox α} {remaining : ℕ} :
      0 < remaining → remaining ≤ box.tokens →
      Step box .silent { box with tokens := remaining }
  | publish (box : Mailbox α) (value : α) :
      Step box (.publish value)
        { box with
          published := box.published ++ [value]
          tokens := box.tokens + 1 }
  | fetch {box : Mailbox α} {value : α} {remaining : ℕ} :
      box.tokens = remaining + 1 → box.published.getLast? = some value →
      Step box .fetch
        { box with
          reads := box.reads ++ [value]
          tokens := remaining }

/-- The reads pick publications without ever going back. -/
def PicksInOrder (published reads : List α) : Prop :=
  ∃ positions : List ℕ, positions.Pairwise (· ≤ ·) ∧
    reads.map some = positions.map (published[·]?)

/-- What every reachable mailbox satisfies. -/
structure Sound (box : Mailbox α) : Prop where
  counted : box.reads.length + box.tokens ≤ box.published.length
  inOrder : PicksInOrder box.published box.reads
  lastRead : box.tokens = 0 → box.reads.getLast? = box.published.getLast?

/-- What a mailbox satisfies whose publications never meet an outstanding notification. -/
structure Lossless (box : Mailbox α) : Prop where
  tokens_le : box.tokens ≤ 1
  settled : box.tokens = 0 → box.reads = box.published
  unread : box.tokens = 1 → ∃ value, box.published = box.reads ++ [value]

variable {box after : Mailbox α} {label : Label α}

theorem sound_empty : (empty : Mailbox α).Sound where
  counted := Nat.le_refl 0
  inOrder := ⟨[], .nil, rfl⟩
  lastRead _ := rfl

theorem lossless_empty : (empty : Mailbox α).Lossless where
  tokens_le := Nat.zero_le 1
  settled _ := rfl
  unread impossible := absurd impossible (by simp [empty])

/-- A position that a read picked stays inside the publications. -/
private theorem lt_length_of_reads {published reads : List α} {positions : List ℕ}
    (picked : reads.map some = positions.map (published[·]?)) {position : ℕ}
    (member : position ∈ positions) : position < published.length := by
  have present : published[position]? ∈ reads.map some := by
    rw [picked]
    exact List.mem_map_of_mem member
  obtain ⟨value, -, value_eq⟩ := List.mem_map.mp present
  exact (List.getElem?_eq_some_iff.mp value_eq.symm).1

private theorem picksInOrder_publish {published reads : List α}
    (inOrder : PicksInOrder published reads) (value : α) :
    PicksInOrder (published ++ [value]) reads := by
  obtain ⟨positions, sorted, picked⟩ := inOrder
  refine ⟨positions, sorted, picked.trans (List.map_congr_left fun position member => ?_)⟩
  exact (List.getElem?_append_left (lt_length_of_reads picked member)).symm

/-- A read of the slot picks the latest publication, which no earlier read is past. -/
private theorem picksInOrder_fetch {published reads : List α}
    (inOrder : PicksInOrder published reads) {value : α}
    (latest : published.getLast? = some value) :
    PicksInOrder published (reads ++ [value]) := by
  obtain ⟨positions, sorted, picked⟩ := inOrder
  refine ⟨positions ++ [published.length - 1], ?_, ?_⟩
  · rw [List.pairwise_append]
    refine ⟨sorted, List.pairwise_singleton _ _, ?_⟩
    intro position member last last_mem
    have within := lt_length_of_reads picked member
    rw [List.mem_singleton.mp last_mem]
    omega
  · rw [List.getLast?_eq_getElem?] at latest
    simp [picked, latest]

/-- The first reads of an ordered list of reads are ordered. -/
theorem picksInOrder_of_append {published earlier later : List α}
    (inOrder : PicksInOrder published (earlier ++ later)) : PicksInOrder published earlier := by
  obtain ⟨positions, sorted, picked⟩ := inOrder
  refine ⟨positions.take earlier.length, sorted.sublist (List.take_sublist _ _), ?_⟩
  have taken := congrArg (List.take earlier.length) picked
  simpa [List.map_take] using taken

/-- Every read was published. -/
theorem mem_of_picksInOrder {published reads : List α} (inOrder : PicksInOrder published reads)
    {value : α} (read : value ∈ reads) : value ∈ published := by
  obtain ⟨positions, -, picked⟩ := inOrder
  have present : some value ∈ positions.map (published[·]?) := by
    rw [← picked]
    exact List.mem_map_of_mem read
  obtain ⟨position, -, position_eq⟩ := List.mem_map.mp present
  exact List.mem_of_getElem? position_eq

theorem sound_step (sound : box.Sound) (step : Step box label after) : after.Sound := by
  obtain ⟨counted, inOrder, lastRead⟩ := sound
  cases step with
  | silent => exact ⟨counted, inOrder, lastRead⟩
  | merge remaining_pos remaining_le =>
      refine ⟨?_, inOrder, fun none_left => absurd none_left remaining_pos.ne'⟩
      dsimp only
      omega
  | publish value =>
      refine ⟨?_, picksInOrder_publish inOrder value, fun none_left => absurd none_left (by simp)⟩
      simp only [List.length_append, List.length_singleton]
      omega
  | fetch tokens_eq latest =>
      refine ⟨?_, picksInOrder_fetch inOrder latest, fun _ => ?_⟩
      · simp only [List.length_append, List.length_singleton]
        omega
      · rw [latest]
        exact List.getLast?_concat

theorem lossless_step (lossless : box.Lossless) (step : Step box label after)
    (calm : ∀ value, label = .publish value → box.tokens = 0) : after.Lossless := by
  obtain ⟨tokens_le, settled, unread⟩ := lossless
  cases step with
  | silent => exact ⟨tokens_le, settled, unread⟩
  | merge remaining_pos remaining_le =>
      refine ⟨by dsimp only; omega, fun none_left => absurd none_left remaining_pos.ne', ?_⟩
      intro
      apply unread
      omega
  | publish value =>
      have none_left := calm value rfl
      refine ⟨by dsimp only; omega, fun impossible => absurd impossible (by simp), fun _ => ?_⟩
      exact ⟨value, by rw [settled none_left]⟩
  | fetch tokens_eq latest =>
      obtain ⟨value, published_eq⟩ := unread (by omega)
      rw [published_eq, List.getLast?_concat] at latest
      obtain rfl := Option.some.inj latest
      refine ⟨by dsimp only; omega, fun _ => published_eq.symm, ?_⟩
      intro impossible
      dsimp only at impossible
      omega

end Mailbox

end Guarded
