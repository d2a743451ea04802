import Mathlib.Data.List.DropRight
import Mathlib.Data.List.Infix
import Mathlib.Tactic.Common

/-!
# Scanning lists for delimiters

First occurrence, splitting and trimming over any type of items with decidable
equality. The byte and text operations of the request front end are these
functions at bytes and at characters.
-/

namespace SmallServer.ListScan

set_option autoImplicit false

variable {Item : Type*} [DecidableEq Item]

def find (pattern : List Item) : List Item → Option Nat
  | [] => if pattern = [] then some 0 else none
  | item :: rest =>
      if pattern <+: item :: rest then some 0 else (find pattern rest).map (· + 1)

theorem find_eq_some_iff (pattern items : List Item) (offset : Nat) :
    find pattern items = some offset ↔
      offset ≤ items.length ∧ pattern <+: items.drop offset ∧
        ∀ earlier < offset, ¬ pattern <+: items.drop earlier := by
  induction items generalizing offset with
  | nil =>
      simp only [find]
      split
      · rename_i empty
        subst empty
        constructor
        · intro same
          cases same
          simp
        · rintro ⟨bound, _, _⟩
          simp at bound
          rw [bound]
      · rename_i nonempty
        simp [nonempty]
  | cons item rest induction =>
      simp only [find]
      split
      · rename_i here
        constructor
        · intro same
          cases same
          simpa using here
        · rintro ⟨_, _, first⟩
          cases offset with
          | zero => rfl
          | succ offset => exact absurd (by simpa using here) (first 0 (by omega))
      · rename_i notHere
        cases offset with
        | zero =>
            simp only [Option.map_eq_some_iff, Nat.add_eq_zero_iff, List.drop_zero]
            constructor
            · rintro ⟨_, _, _, impossible⟩
              exact absurd impossible (by decide)
            · rintro ⟨_, here, _⟩
              exact absurd here notHere
        | succ offset =>
            simp only [Option.map_eq_some_iff, Nat.add_right_cancel_iff, exists_eq_right,
              induction, List.length_cons, List.drop_succ_cons, Nat.add_le_add_iff_right]
            constructor
            · rintro ⟨bound, here, first⟩
              refine ⟨bound, here, ?_⟩
              intro earlier before
              cases earlier with
              | zero => simpa using notHere
              | succ earlier => simpa using first earlier (by omega)
            · rintro ⟨bound, here, first⟩
              exact ⟨bound, here, fun earlier before => by
                simpa using first (earlier + 1) (by omega)⟩

theorem find_eq_none_iff (pattern items : List Item) :
    find pattern items = none ↔ ∀ offset ≤ items.length, ¬ pattern <+: items.drop offset := by
  constructor
  · intro absent offset bound
    induction offset using Nat.strong_induction_on with
    | _ offset induction =>
        intro here
        have found := (find_eq_some_iff pattern items offset).mpr
          ⟨bound, here, fun earlier before => induction earlier before (by omega)⟩
        rw [absent] at found
        cases found
  · intro absent
    cases found : find pattern items with
    | none => rfl
    | some offset =>
        obtain ⟨bound, here, _⟩ := (find_eq_some_iff pattern items offset).mp found
        exact absurd here (absent offset bound)

theorem find_split {pattern items : List Item} {offset : Nat}
    (found : find pattern items = some offset) :
    items = items.take offset ++ pattern ++ items.drop (offset + pattern.length) := by
  obtain ⟨_, ⟨suffix, here⟩, _⟩ := (find_eq_some_iff pattern items offset).mp found
  have tail : items.drop (offset + pattern.length) = suffix := by
    rw [← List.drop_drop, ← here, List.drop_left]
  rw [tail, List.append_assoc, here, List.take_append_drop]

theorem find_length_le {pattern items : List Item} {offset : Nat}
    (found : find pattern items = some offset) : offset + pattern.length ≤ items.length := by
  obtain ⟨bound, here, _⟩ := (find_eq_some_iff pattern items offset).mp found
  have fits := here.length_le
  rw [List.length_drop] at fits
  omega

/-- An occurrence that is already complete is not displaced by later items. -/
theorem find_append {pattern items : List Item} {offset : Nat}
    (found : find pattern items = some offset) (later : List Item) :
    find pattern (items ++ later) = some offset := by
  have complete := find_length_le found
  obtain ⟨bound, here, first⟩ := (find_eq_some_iff pattern items offset).mp found
  refine (find_eq_some_iff _ _ _).mpr ⟨by rw [List.length_append]; omega, ?_, ?_⟩
  · rw [List.drop_append_of_le_length bound]
    exact here.trans (List.prefix_append _ _)
  · intro earlier before longer
    rw [List.drop_append_of_le_length (by omega)] at longer
    refine first earlier before ?_
    exact List.prefix_of_prefix_length_le longer (List.prefix_append _ _)
      (by rw [List.length_drop]; omega)

/-- An occurrence that appears only with later items ends beyond the earlier ones. -/
theorem find_none_append {pattern items later : List Item} {offset : Nat}
    (absent : find pattern items = none)
    (found : find pattern (items ++ later) = some offset) :
    items.length < offset + pattern.length := by
  by_contra inside
  obtain ⟨_, here, _⟩ := (find_eq_some_iff _ _ _).mp found
  have bound : offset ≤ items.length := by omega
  rw [List.drop_append_of_le_length bound] at here
  refine (find_eq_none_iff pattern items).mp absent offset bound ?_
  exact List.prefix_of_prefix_length_le here (List.prefix_append _ _)
    (by rw [List.length_drop]; omega)

theorem find_map {Other : Type*} [DecidableEq Other] (f : Item → Other)
    (injective : Function.Injective f) (pattern items : List Item) :
    find (pattern.map f) (items.map f) = find pattern items := by
  induction items with
  | nil => simp [find]
  | cons item rest induction =>
      have same : pattern.map f <+: (item :: rest).map f ↔ pattern <+: item :: rest :=
        List.prefix_map_iff_of_injective injective
      simp only [List.map_cons] at same ⊢
      simp only [find, same, induction]

/-- No occurrence starts inside a block without the pattern's first item. -/
theorem find_skip {first : Item} {tail block items : List Item} (clean : first ∉ block) :
    find (first :: tail) (block ++ items) =
      (find (first :: tail) items).map (· + block.length) := by
  induction block with
  | nil => simp
  | cons item block induction =>
      have different : first ≠ item := fun same => clean (by simp [same])
      have rest : first ∉ block := fun member => clean (by simp [member])
      have notHere : ¬ (first :: tail) <+: item :: (block ++ items) := by
        rw [List.cons_prefix_cons]
        exact fun here => different here.1
      rw [List.cons_append, find, if_neg notHere, induction rest, Option.map_map]
      congr 1

def consHead (item : Item) : List (List Item) → List (List Item)
  | [] => [[item]]
  | piece :: pieces => (item :: piece) :: pieces

/-- Split from left to right; `skip` counts the items of a separator still to be
passed over. -/
def splitFrom (separator : List Item) : Nat → List Item → List (List Item)
  | _, [] => [[]]
  | skip + 1, _ :: rest => splitFrom separator skip rest
  | 0, item :: rest =>
      if separator <+: item :: rest then
        [] :: splitFrom separator (separator.length - 1) rest
      else consHead item (splitFrom separator 0 rest)

def split (separator items : List Item) : List (List Item) := splitFrom separator 0 items

omit [DecidableEq Item] in
theorem consHead_ne_nil (item : Item) (pieces : List (List Item)) :
    consHead item pieces ≠ [] := by
  cases pieces <;> simp [consHead]

theorem splitFrom_ne_nil (separator : List Item) (skip : Nat) (items : List Item) :
    splitFrom separator skip items ≠ [] := by
  induction items generalizing skip with
  | nil => cases skip <;> simp [splitFrom]
  | cons item rest induction =>
      cases skip with
      | succ skip => simpa [splitFrom] using induction skip
      | zero =>
          simp only [splitFrom]
          split
          · simp
          · exact consHead_ne_nil _ _

theorem intercalate_splitFrom {separator : List Item} (nonempty : separator ≠ [])
    (skip : Nat) (items : List Item) :
    List.intercalate separator (splitFrom separator skip items) = items.drop skip := by
  induction items generalizing skip with
  | nil => cases skip <;> simp [splitFrom]
  | cons item rest induction =>
      cases skip with
      | succ skip => simpa [splitFrom] using induction skip
      | zero =>
          simp only [splitFrom, List.drop_zero]
          split
          · rename_i here
            obtain ⟨suffix, same⟩ := here
            have joined := induction (separator.length - 1)
            cases separator with
            | nil => exact absurd rfl nonempty
            | cons first tail =>
                rw [List.cons_append, List.cons.injEq] at same
                rw [List.intercalate_cons_of_ne_nil (splitFrom_ne_nil _ _ _), joined,
                  ← same.2]
                simp [same.1]
          · have joined := induction 0
            cases pieces : splitFrom separator 0 rest with
            | nil => exact absurd pieces (splitFrom_ne_nil _ _ _)
            | cons piece more =>
                rw [pieces, List.drop_zero] at joined
                rw [← joined]
                cases more <;> simp [consHead]

theorem intercalate_split {separator : List Item} (nonempty : separator ≠ [])
    (items : List Item) : List.intercalate separator (split separator items) = items := by
  simpa [split] using intercalate_splitFrom nonempty 0 items

theorem splitFrom_skip (separator skipped items : List Item) :
    splitFrom separator skipped.length (skipped ++ items) = splitFrom separator 0 items := by
  induction skipped with
  | nil => rfl
  | cons item skipped induction => simpa [splitFrom] using induction

/-- A block without the separator's first item goes whole into the first piece. -/
theorem splitFrom_block {first : Item} {tail block items : List Item} (clean : first ∉ block) :
    splitFrom (first :: tail) 0 (block ++ items) =
      block.foldr consHead (splitFrom (first :: tail) 0 items) := by
  induction block with
  | nil => rfl
  | cons item block induction =>
      have different : first ≠ item := fun same => clean (by simp [same])
      have notHere : ¬ (first :: tail) <+: item :: (block ++ items) := by
        rw [List.cons_prefix_cons]
        exact fun here => different here.1
      rw [List.cons_append, splitFrom, if_neg notHere,
        induction (fun member => clean (by simp [member])), List.foldr_cons]

omit [DecidableEq Item] in
theorem foldr_consHead (block piece : List Item) (pieces : List (List Item)) :
    block.foldr consHead (piece :: pieces) = (block ++ piece) :: pieces := by
  induction block with
  | nil => rfl
  | cons item block induction => simp [induction, consHead]

/-- Pieces that do not contain the separator's first item survive joining and splitting. -/
theorem split_intercalate {first : Item} {tail : List Item} {pieces : List (List Item)}
    (nonempty : pieces ≠ []) (clean : ∀ piece ∈ pieces, first ∉ piece) :
    split (first :: tail) (List.intercalate (first :: tail) pieces) = pieces := by
  unfold split
  induction pieces with
  | nil => exact absurd rfl nonempty
  | cons piece pieces induction =>
      have pieceClean := clean piece (by simp)
      cases pieces with
      | nil =>
          have whole : splitFrom (first :: tail) 0 (piece ++ []) = piece.foldr consHead
              (splitFrom (first :: tail) 0 []) := splitFrom_block pieceClean
          simpa [splitFrom, foldr_consHead] using whole
      | cons other pieces =>
          have rest := induction (by simp) (fun item member => clean item (by simp [member]))
          have here : (first :: tail) <+:
              first :: (tail ++ List.intercalate (first :: tail) (other :: pieces)) :=
            ⟨List.intercalate (first :: tail) (other :: pieces), rfl⟩
          rw [List.intercalate_cons_cons, List.append_assoc, splitFrom_block pieceClean,
            List.cons_append, splitFrom, if_pos here, List.length_cons, Nat.add_sub_cancel,
            splitFrom_skip, rest, foldr_consHead, List.append_nil]

theorem mem_of_mem_splitFrom {separator : List Item} {skip : Nat} {items piece : List Item}
    {item : Item} (member : piece ∈ splitFrom separator skip items) (inside : item ∈ piece) :
    item ∈ items := by
  induction items generalizing skip piece with
  | nil =>
      have empty : piece = [] := by cases skip <;> simpa [splitFrom] using member
      rw [empty] at inside
      cases inside
  | cons first rest induction =>
      cases skip with
      | succ skip => exact List.mem_cons_of_mem _ (induction member inside)
      | zero =>
          simp only [splitFrom] at member
          split at member
          · rcases List.mem_cons.mp member with rfl | later
            · cases inside
            · exact List.mem_cons_of_mem _ (induction later inside)
          · cases pieces : splitFrom separator 0 rest with
            | nil => exact absurd pieces (splitFrom_ne_nil _ _ _)
            | cons head more =>
                rw [pieces, consHead] at member
                rcases List.mem_cons.mp member with rfl | later
                · rcases List.mem_cons.mp inside with rfl | tail
                  · exact List.mem_cons_self
                  · exact List.mem_cons_of_mem _ (induction (pieces ▸ List.mem_cons_self) tail)
                · exact List.mem_cons_of_mem _
                    (induction (pieces ▸ List.mem_cons_of_mem _ later) inside)

omit [DecidableEq Item] in
theorem mem_intercalate_of_mem {separator piece : List Item} {pieces : List (List Item)}
    {item : Item} (member : piece ∈ pieces) (inside : item ∈ piece) :
    item ∈ List.intercalate separator pieces := by
  induction pieces with
  | nil => cases member
  | cons first pieces induction =>
      cases pieces with
      | nil =>
          rw [List.mem_singleton.mp member] at inside
          simpa using inside
      | cons next pieces =>
          rw [List.intercalate_cons_cons]
          rcases List.mem_cons.mp member with rfl | later
          · simp [inside]
          · exact List.mem_append_right _ (induction later)

omit [DecidableEq Item] in
theorem mem_of_mem_intercalate {separator : List Item} {pieces : List (List Item)} {item : Item}
    (member : item ∈ List.intercalate separator pieces) :
    item ∈ separator ∨ ∃ piece ∈ pieces, item ∈ piece := by
  induction pieces with
  | nil => cases member
  | cons first pieces induction =>
      cases pieces with
      | nil =>
          rw [List.intercalate_singleton] at member
          exact Or.inr ⟨first, List.mem_cons_self, member⟩
      | cons second pieces =>
          rw [List.intercalate_cons_cons, List.append_assoc] at member
          rcases List.mem_append.mp member with here | rest
          · exact Or.inr ⟨first, List.mem_cons_self, here⟩
          · rcases List.mem_append.mp rest with mark | later
            · exact Or.inl mark
            · rcases induction later with mark | ⟨piece, known, inside⟩
              · exact Or.inl mark
              · exact Or.inr ⟨piece, List.mem_cons_of_mem _ known, inside⟩

def beforeMark (mark : Item) (items : List Item) : List Item :=
  items.takeWhile (fun item => decide (item ≠ mark))

/-- What stands after the first `mark`, empty when there is none. -/
def afterMark (mark : Item) (items : List Item) : List Item :=
  (items.dropWhile (fun item => decide (item ≠ mark))).tail

theorem mark_not_mem_beforeMark (mark : Item) (items : List Item) :
    mark ∉ beforeMark mark items := by
  intro member
  simpa using List.mem_takeWhile_imp member

theorem beforeMark_append_afterMark {mark : Item} {items : List Item} (member : mark ∈ items) :
    beforeMark mark items ++ mark :: afterMark mark items = items := by
  induction items with
  | nil => cases member
  | cons item items induction =>
      by_cases same : item = mark
      · subst same
        simp [beforeMark, afterMark]
      · have later : mark ∈ items := (List.mem_cons.mp member).resolve_left (Ne.symm same)
        simpa [beforeMark, afterMark, same] using induction later

theorem beforeMark_of_not_mem {mark : Item} {items : List Item} (absent : mark ∉ items) :
    beforeMark mark items = items := by
  refine List.takeWhile_eq_self_iff.mpr ?_
  intro item member
  simp only [decide_eq_true_eq]
  rintro rfl
  exact absent member

theorem afterMark_of_not_mem {mark : Item} {items : List Item} (absent : mark ∉ items) :
    afterMark mark items = [] := by
  have all : items.dropWhile (fun item => decide (item ≠ mark)) = [] := by
    refine List.dropWhile_eq_nil_iff.mpr ?_
    intro item member
    simp only [decide_eq_true_eq]
    rintro rfl
    exact absent member
  rw [afterMark, all, List.tail_nil]

theorem beforeMark_append {mark : Item} {front : List Item} (absent : mark ∉ front)
    (back : List Item) : beforeMark mark (front ++ mark :: back) = front := by
  have keep : ∀ item ∈ front, decide (item ≠ mark) = true := by
    intro item member
    simp only [decide_eq_true_eq]
    rintro rfl
    exact absent member
  rw [beforeMark, List.takeWhile_append_of_pos keep]
  simp

theorem afterMark_append {mark : Item} {front : List Item} (absent : mark ∉ front)
    (back : List Item) : afterMark mark (front ++ mark :: back) = back := by
  have keep : ∀ item ∈ front, decide (item ≠ mark) = true := by
    intro item member
    simp only [decide_eq_true_eq]
    rintro rfl
    exact absent member
  rw [afterMark, List.dropWhile_append_of_pos keep]
  simp

theorem mark_not_mem_of_mem_splitOn {mark : Item} {items piece : List Item}
    (member : piece ∈ items.splitOn mark) : mark ∉ piece := by
  induction items generalizing piece with
  | nil =>
      rw [List.splitOn_nil, List.mem_singleton] at member
      simp [member]
  | cons item items induction =>
      rw [List.splitOn_cons_eq_if_modifyHead] at member
      split at member
      · rcases List.mem_cons.mp member with rfl | later
        · simp
        · exact induction later
      · rename_i different
        cases pieces : items.splitOn mark with
        | nil => exact absurd pieces (List.splitOn_ne_nil _ _)
        | cons first more =>
            rw [pieces] at member
            rcases List.mem_cons.mp member with rfl | later
            · intro inside
              rcases List.mem_cons.mp inside with rfl | tail
              · exact different (by simp)
              · exact induction (pieces ▸ List.mem_cons_self) tail
            · exact induction (pieces ▸ List.mem_cons_of_mem _ later)

def strip (trimmed : Item → Bool) (items : List Item) : List Item :=
  (items.dropWhile trimmed).rdropWhile trimmed

omit [DecidableEq Item] in
theorem strip_subset (trimmed : Item → Bool) (items : List Item) :
    strip trimmed items ⊆ items := by
  intro item member
  exact (List.dropWhile_sublist _).subset ((List.rdropWhile_prefix _ _).subset member)

omit [DecidableEq Item] in
theorem dropWhile_of_head {trimmed : Item → Bool} {items : List Item}
    (first : ∀ item, items.head? = some item → trimmed item = false) :
    items.dropWhile trimmed = items := by
  cases items with
  | nil => rfl
  | cons item rest => exact List.dropWhile_cons_of_neg (by rw [first item rfl]; decide)

omit [DecidableEq Item] in
/-- What `strip` leaves, if it leaves anything: the middle between two runs of trimmed items. -/
theorem strip_eq_iff {trimmed : Item → Bool} {items middle : List Item} (nonempty : middle ≠ []) :
    strip trimmed items = middle ↔
      (∃ left right, items = left ++ middle ++ right ∧ (∀ item ∈ left, trimmed item = true) ∧
        ∀ item ∈ right, trimmed item = true) ∧
      (∀ item, middle.head? = some item → trimmed item = false) ∧
        ∀ item, middle.getLast? = some item → trimmed item = false := by
  unfold strip
  constructor
  · rintro rfl
    refine ⟨⟨items.takeWhile trimmed, (items.dropWhile trimmed).rtakeWhile trimmed, ?_, ?_, ?_⟩,
      ?_, ?_⟩
    · rw [List.append_assoc, List.rdropWhile_append_rtakeWhile, List.takeWhile_append_dropWhile]
    · exact fun item member => List.mem_takeWhile_imp member
    · exact fun item member => List.mem_rtakeWhile_imp member
    · intro item first
      have opened := List.head?_dropWhile_not trimmed items
      obtain ⟨rest, split⟩ := List.rdropWhile_prefix trimmed (items.dropWhile trimmed)
      rw [← split, List.head?_append_of_ne_nil _ nonempty, first] at opened
      exact opened
    · intro item last
      have closed := List.rdropWhile_last_not trimmed (items.dropWhile trimmed) nonempty
      rw [List.getLast?_eq_some_getLast nonempty] at last
      rw [Option.some.inj last] at closed
      exact Bool.eq_false_iff.mpr closed
  · rintro ⟨⟨left, right, rfl, leftTrimmed, rightTrimmed⟩, first, last⟩
    have opened : (left ++ middle ++ right).dropWhile trimmed = middle ++ right := by
      rw [List.append_assoc, List.dropWhile_append_of_pos leftTrimmed]
      refine dropWhile_of_head ?_
      rw [List.head?_append_of_ne_nil _ nonempty]
      exact first
    rw [opened]
    unfold List.rdropWhile
    rw [List.reverse_append, List.dropWhile_append_of_pos (by simpa using rightTrimmed),
      dropWhile_of_head (by simpa using last), List.reverse_reverse]

/-- The pieces of `splitOn` are the stretches without the mark between two marks or ends. -/
theorem mem_splitOn_iff {mark : Item} {items piece : List Item} :
    piece ∈ items.splitOn mark ↔ mark ∉ piece ∧ ∃ before after,
      items = before ++ piece ++ after ∧ (before = [] ∨ ∃ front, before = front ++ [mark]) ∧
        (after = [] ∨ ∃ back, after = mark :: back) := by
  constructor
  · intro member
    refine ⟨mark_not_mem_of_mem_splitOn member, ?_⟩
    generalize size : items.length = length
    induction length using Nat.strong_induction_on generalizing items with
    | _ length induction =>
        by_cases marked : mark ∈ items
        · have split := beforeMark_append_afterMark marked
          rw [← split, List.splitOn_append_cons_self,
            List.splitOn_eq_singleton (mark_not_mem_beforeMark mark items)] at member
          rcases List.mem_append.mp member with first | later
          · rw [List.mem_singleton.mp first]
            exact ⟨[], mark :: afterMark mark items, by rw [List.nil_append, split],
              Or.inl rfl, Or.inr ⟨_, rfl⟩⟩
          · have shorter : (afterMark mark items).length < length := by
              have sizes := congrArg List.length split
              rw [List.length_append, List.length_cons] at sizes
              omega
            obtain ⟨before, after, rest, opened, closed⟩ := induction _ shorter later rfl
            refine ⟨beforeMark mark items ++ mark :: before, after, ?_, Or.inr ?_, closed⟩
            · rw [rest] at split
              refine split.symm.trans ?_
              simp
            · rcases opened with rfl | ⟨front, rfl⟩
              · exact ⟨beforeMark mark items, rfl⟩
              · exact ⟨beforeMark mark items ++ mark :: front, by simp⟩
        · rw [List.splitOn_eq_singleton marked] at member
          rw [List.mem_singleton.mp member]
          exact ⟨[], [], by simp, Or.inl rfl, Or.inl rfl⟩
  · rintro ⟨clean, before, after, rfl, opened, closed⟩
    have tail : piece ∈ (piece ++ after).splitOn mark := by
      rcases closed with rfl | ⟨back, rfl⟩
      · rw [List.append_nil, List.splitOn_eq_singleton clean]
        exact List.mem_singleton_self piece
      · rw [List.splitOn_append_cons_self, List.splitOn_eq_singleton clean]
        exact List.mem_append_left _ (List.mem_singleton_self piece)
    rcases opened with rfl | ⟨front, rfl⟩
    · exact tail
    · rw [List.append_assoc, List.append_assoc, List.singleton_append,
        List.splitOn_append_cons_self]
      exact List.mem_append_right _ tail

theorem forall_of_all {Letter : Type*} {items : List Letter} {P : Letter → Prop} [DecidablePred P]
    (checked : items.all (fun item => decide (P item)) = true) : ∀ item ∈ items, P item :=
  fun item member => of_decide_eq_true (List.all_eq_true.mp checked item member)

end SmallServer.ListScan
