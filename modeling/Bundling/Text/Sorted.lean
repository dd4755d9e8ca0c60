/-!
# Sorted texts

Finite sets of texts and finite maps keyed by texts, kept in increasing code-point order
without repeated keys. Code-point order of texts is the byte order of their UTF-8 forms,
so listing a set or a map gives the order in which plans and answers print them.

## Main definitions

- `TextSet` — a set of texts as a strictly increasing list
- `TextMap` — a map from texts as a list of pairs with strictly increasing keys
- `TextSet.insert`, `TextMap.insert` — insertion; in a map the later value wins

## Design notes

The order is part of the type: `sorted` is a proof field, so two sets are equal exactly
when they list the same texts.
-/

namespace Bundling

/-- Totality of the order of texts: two different texts are ordered one way or the other. -/
theorem lt_of_not_lt_of_ne_text {a b : String} (h : ¬ a < b) (hne : a ≠ b) : b < a :=
  Std.lt_of_le_of_ne (Std.not_lt.mp h) (Ne.symm hne)

/-- Inserts a text into a strictly increasing list, keeping it strictly increasing. -/
def insertText (s : String) : List String → List String
  | [] => [s]
  | t :: ts => if s < t then s :: t :: ts else if s = t then t :: ts else t :: insertText s ts

theorem mem_insertText {s x : String} {l : List String} :
    x ∈ insertText s l ↔ x = s ∨ x ∈ l := by
  induction l with
  | nil => simp [insertText]
  | cons t ts ih =>
    unfold insertText
    split
    · simp
    · split
      · rename_i h; subst h; simp
      · simp only [List.mem_cons, ih]; exact or_left_comm

theorem pairwise_insertText {s : String} {l : List String} (h : l.Pairwise (· < ·)) :
    (insertText s l).Pairwise (· < ·) := by
  induction l with
  | nil => simp [insertText]
  | cons t ts ih =>
    rw [List.pairwise_cons] at h
    unfold insertText
    split
    · rename_i hst
      refine List.Pairwise.cons ?_ (List.Pairwise.cons h.1 h.2)
      intro y hy
      rcases List.mem_cons.mp hy with rfl | hy
      · exact hst
      · exact String.lt_trans hst (h.1 y hy)
    · split
      · exact List.Pairwise.cons h.1 h.2
      · rename_i hst hne
        have hts : t < s := lt_of_not_lt_of_ne_text hst hne
        refine List.Pairwise.cons ?_ (ih h.2)
        intro y hy
        rcases mem_insertText.mp hy with rfl | hy
        · exact hts
        · exact h.1 y hy

/-- A text above every text of a list goes to its end. -/
theorem insertText_of_forall_lt {s : String} {l : List String} (h : ∀ x ∈ l, x < s) :
    insertText s l = l ++ [s] := by
  induction l with
  | nil => rfl
  | cons t ts ih =>
    have hts : t < s := h t List.mem_cons_self
    have hnlt : ¬ s < t := fun hst => String.lt_irrefl _ (String.lt_trans hst hts)
    have hne : s ≠ t := fun hst => String.lt_irrefl _ (hst ▸ hts)
    rw [insertText, if_neg hnlt, if_neg hne, ih fun x hx => h x (List.mem_cons_of_mem _ hx)]
    rfl

/-- **A finite set of texts**, listed in strictly increasing order. -/
structure TextSet where
  toList : List String
  sorted : toList.Pairwise (· < ·)

namespace TextSet

/-- The empty set. -/
def empty : TextSet := ⟨[], List.Pairwise.nil⟩

instance : EmptyCollection TextSet := ⟨empty⟩

/-- Adds one text. -/
def insert (xs : TextSet) (s : String) : TextSet :=
  ⟨insertText s xs.toList, pairwise_insertText xs.sorted⟩

/-- The set of the texts of a list. -/
def ofList (l : List String) : TextSet :=
  l.foldl insert empty

/-- All texts of both sets. -/
def union (xs ys : TextSet) : TextSet :=
  ys.toList.foldl insert xs

/-- Membership. -/
def contains (xs : TextSet) (s : String) : Bool :=
  xs.toList.contains s

/-- The number of texts. -/
def size (xs : TextSet) : Nat :=
  xs.toList.length

/-- Whether the set is empty. -/
def isEmpty (xs : TextSet) : Bool :=
  xs.toList.isEmpty

@[ext] theorem ext {xs ys : TextSet} (h : xs.toList = ys.toList) : xs = ys := by
  cases xs; cases ys; simp_all

instance : DecidableEq TextSet := fun xs ys =>
  if h : xs.toList = ys.toList then isTrue (ext h) else isFalse (fun e => h (e ▸ rfl))

@[simp] theorem mem_insert {xs : TextSet} {s x : String} :
    x ∈ (xs.insert s).toList ↔ x = s ∨ x ∈ xs.toList :=
  mem_insertText

theorem toList_foldl_insert (acc : TextSet) {l : List String}
    (h : (acc.toList ++ l).Pairwise (· < ·)) :
    (l.foldl insert acc).toList = acc.toList ++ l := by
  induction l generalizing acc with
  | nil => simp
  | cons x xs ih =>
    -- `x` lies above everything gathered so far, so it goes to the end
    have hx : (acc.insert x).toList = acc.toList ++ [x] :=
      insertText_of_forall_lt fun y hy => (List.pairwise_append.mp h).2.2 y hy x List.mem_cons_self
    rw [List.foldl_cons, ih (acc.insert x) (by simpa [hx] using h), hx]
    simp

theorem eq_empty_of_isEmpty {xs : TextSet} (h : xs.isEmpty = true) : xs = empty :=
  ext (List.isEmpty_iff.mp h)

/-- **Listing a set and reading the list back** gives the set. -/
theorem ofList_toList (xs : TextSet) : ofList xs.toList = xs :=
  ext (toList_foldl_insert empty (show (empty.toList ++ xs.toList).Pairwise (· < ·) from xs.sorted))

end TextSet

/-- Inserts a key and value into a list of pairs with strictly increasing keys; a pair with
the same key is replaced. -/
def insertEntry {α : Type} (k : String) (v : α) : List (String × α) → List (String × α)
  | [] => [(k, v)]
  | (k', v') :: rest =>
    if k < k' then (k, v) :: (k', v') :: rest
    else if k = k' then (k, v) :: rest
    else (k', v') :: insertEntry k v rest

theorem mem_keys_insertEntry {α : Type} {k x : String} {v : α} {l : List (String × α)} :
    x ∈ (insertEntry k v l).map Prod.fst ↔ x = k ∨ x ∈ l.map Prod.fst := by
  induction l with
  | nil => simp [insertEntry]
  | cons p rest ih =>
    obtain ⟨k', v'⟩ := p
    unfold insertEntry
    split
    · simp
    · split
      · rename_i h; subst h; simp
      · simp only [List.map_cons, List.mem_cons] at ih ⊢
        rw [ih]; exact or_left_comm

theorem pairwise_insertEntry {α : Type} {k : String} {v : α} {l : List (String × α)}
    (h : (l.map Prod.fst).Pairwise (· < ·)) :
    ((insertEntry k v l).map Prod.fst).Pairwise (· < ·) := by
  induction l with
  | nil => simp [insertEntry]
  | cons p rest ih =>
    obtain ⟨k', v'⟩ := p
    simp only [List.map_cons, List.pairwise_cons] at h
    unfold insertEntry
    split
    · rename_i hk
      simp only [List.map_cons, List.pairwise_cons, List.mem_cons]
      refine ⟨?_, h.1, h.2⟩
      intro y hy
      rcases hy with rfl | hy
      · exact hk
      · exact String.lt_trans hk (h.1 y hy)
    · split
      · rename_i heq; subst heq
        simp only [List.map_cons, List.pairwise_cons]
        exact ⟨h.1, h.2⟩
      · rename_i hk hne
        have hlt : k' < k := lt_of_not_lt_of_ne_text hk hne
        simp only [List.map_cons, List.pairwise_cons]
        refine ⟨?_, ih h.2⟩
        intro y hy
        rcases mem_keys_insertEntry.mp hy with rfl | hy
        · exact hlt
        · exact h.1 y hy

/-- A key above every key of a list goes to its end. -/
theorem insertEntry_of_forall_lt {α : Type} {k : String} {v : α} {l : List (String × α)}
    (h : ∀ x ∈ l.map Prod.fst, x < k) : insertEntry k v l = l ++ [(k, v)] := by
  induction l with
  | nil => rfl
  | cons p rest ih =>
    obtain ⟨k', v'⟩ := p
    have hk : k' < k := h k' List.mem_cons_self
    have hnlt : ¬ k < k' := fun hkk => String.lt_irrefl _ (String.lt_trans hkk hk)
    have hne : k ≠ k' := fun hkk => String.lt_irrefl _ (hkk ▸ hk)
    rw [insertEntry, if_neg hnlt, if_neg hne, ih fun x hx => h x (List.mem_cons_of_mem _ hx)]
    rfl

/-- **A finite map keyed by texts**, listed with strictly increasing keys. -/
structure TextMap (α : Type) where
  toList : List (String × α)
  sorted : (toList.map Prod.fst).Pairwise (· < ·)

namespace TextMap

variable {α : Type}

/-- The empty map. -/
def empty : TextMap α := ⟨[], List.Pairwise.nil⟩

instance : EmptyCollection (TextMap α) := ⟨empty⟩

/-- Sets the value of a key, replacing an earlier one. -/
def insert (m : TextMap α) (k : String) (v : α) : TextMap α :=
  ⟨insertEntry k v m.toList, pairwise_insertEntry m.sorted⟩

/-- The map of a list of pairs; of two pairs with one key the later wins. -/
def ofList (l : List (String × α)) : TextMap α :=
  l.foldl (fun m p => m.insert p.1 p.2) empty

/-- The value of a key. -/
def get? (m : TextMap α) (k : String) : Option α :=
  (m.toList.find? (fun p => p.1 == k)).map Prod.snd

/-- The keys in increasing order. -/
def keys (m : TextMap α) : List String :=
  m.toList.map Prod.fst

/-- Whether the map is empty. -/
def isEmpty (m : TextMap α) : Bool :=
  m.toList.isEmpty

@[ext] theorem ext {m n : TextMap α} (h : m.toList = n.toList) : m = n := by
  cases m; cases n; simp_all

instance [DecidableEq α] : DecidableEq (TextMap α) := fun m n =>
  if h : m.toList = n.toList then isTrue (ext h) else isFalse (fun e => h (e ▸ rfl))

theorem toList_foldl_insert (acc : TextMap α) {l : List (String × α)}
    (h : ((acc.toList ++ l).map Prod.fst).Pairwise (· < ·)) :
    (l.foldl (fun m p => m.insert p.1 p.2) acc).toList = acc.toList ++ l := by
  induction l generalizing acc with
  | nil => simp
  | cons p ps ih =>
    -- the key of `p` lies above every key gathered so far, so `p` goes to the end
    have hp : (acc.insert p.1 p.2).toList = acc.toList ++ [p] := by
      refine insertEntry_of_forall_lt fun y hy => ?_
      rw [List.map_append, List.pairwise_append] at h
      exact h.2.2 y hy p.1 (by simp)
    rw [List.foldl_cons, ih (acc.insert p.1 p.2) (by simpa [hp] using h), hp]
    simp

/-- **Listing a map and reading the list back** gives the map. -/
theorem ofList_toList (m : TextMap α) : ofList m.toList = m :=
  ext (toList_foldl_insert empty
    (show ((empty.toList ++ m.toList).map Prod.fst).Pairwise (· < ·) from m.sorted))

end TextMap

end Bundling
