import WorkflowArtifacts.Proofs.Store.Reach

/-!
# Records made apart

Whoever makes records from documents, or a form from its plan, makes new records that refer to each
other and to nothing that was there before. `Store.GrowsApart` says this of a store that goes on
from another one. The records that are made so form trees which have nothing in common, neither with
each other nor with anything older: `Store.Forest`.

Both are kept as the making goes on. More trees may be made next to those that there are, a new
record may take up all of them as its parts, and a tree may be grafted onto any record of another
one, which makes both of them one tree (`Store.Graft`).

Records lead downwards as long as nothing but fields is listed as a field (`Store.ListsFields`);
what else is put there may lead back up.
-/

namespace WorkflowArtifacts

/-! ## Nothing in common -/

namespace Entity

/-- Whether two records lead to nothing in common. -/
def Apart (s : Store) (a b : Entity) : Prop := ∀ x, a.Reaches s x → ¬ b.Reaches s x

/-- Whether a record holds what its class asks for: an appearance lists nothing but fields, and a
visibility nothing but texts. All other records are asked for nothing here. -/
def IsPlain (s : Store) : Entity → Prop
  | .appearance r => ∀ entry ∈ (s.get r).fields, ∃ field, entry = .field field
  | .visibility r => ∀ j ∈ (s.get r).shown ++ (s.get r).hidden, ∃ text, j = .text text
  | _ => True

/-- How far a record may be from those that have no parts. -/
def rank : Entity → Nat
  | .formModule _ => 6
  | .configuration _ => 5
  | .form _ => 4
  | .appearance _ => 3
  | .formField _ => 2
  | .control _ | .process _ | .contentModel _ => 1
  | _ => 0

variable {s t : Store} {e a b x : Entity}

theorem Apart.symm (h : a.Apart s b) : b.Apart s a := fun x hb ha ↦ h x ha hb

instance (s : Store) : Std.Symm (Entity.Apart s) := ⟨fun _ _ ↦ Apart.symm⟩

theorem Apart.ne (h : a.Apart s b) : a ≠ b := by
  rintro rfl
  exact h a (.refl s a) (.refl s a)

/-- What is kept together with what leads to it stays apart from what is kept. -/
theorem Apart.congr (ha : ∀ x, a.Reaches t x ↔ a.Reaches s x)
    (hb : ∀ x, b.Reaches t x ↔ b.Reaches s x) (h : a.Apart s b) : a.Apart t b :=
  fun x hax hbx ↦ h x ((ha x).1 hax) ((hb x).1 hbx)

theorem Same.isPlain_iff (h : e.Same s t) : e.IsPlain t ↔ e.IsPlain s := by
  cases e with
  | appearance r => rw [IsPlain, IsPlain, h.1]
  | visibility r => rw [IsPlain, IsPlain, show t.get r = s.get r from h]
  | _ => exact Iff.rfl

/-- What is made of records as they should be leads downwards. -/
theorem rank_lt_of_mem_parts (he : e.IsPlain s) (ha : a ∈ e.parts s) : a.rank < e.rank := by
  cases e with
  | appearance r =>
    rcases List.mem_append.1 ha with hset | hfield
    · obtain ⟨x, -, rfl⟩ := List.mem_map.1 hset
      exact Nat.zero_lt_succ _
    · obtain ⟨entry, hentry, ha⟩ := List.mem_flatMap.1 hfield
      obtain ⟨field, rfl⟩ := he entry hentry
      rw [List.mem_singleton.1 ha]
      exact Nat.lt_succ_self _
  | form r =>
    rcases List.mem_cons.1 ha with rfl | ha
    · exact Nat.zero_lt_succ _
    · rw [List.mem_singleton.1 ha]
      exact Nat.lt_succ_self _
  | process r | contentModel r | control r | formField r | configuration r | formModule r =>
    obtain ⟨x, -, rfl⟩ := List.mem_map.1 ha
    exact Nat.lt_succ_self _
  | _ => exact absurd ha List.not_mem_nil

/-! ## Trees -/

/-- Whether a record is the root of a tree of records as they should be: whatever it leads to, it
leads there in one way only. -/
structure IsTree (s : Store) (e : Entity) : Prop where
  /-- Different parts lead to nothing in common. -/
  apart : ∀ x, e.Reaches s x → (x.parts s).Pairwise (Entity.Apart s)
  /-- All records are as they should be. -/
  plain : ∀ x, e.Reaches s x → x.IsPlain s

namespace IsTree

theorem of_reaches (h : e.IsTree s) (hx : e.Reaches s x) : x.IsTree s where
  apart y hy := h.apart y (hx.trans hy)
  plain y hy := h.plain y (hx.trans hy)

/-- Trees that have nothing in common become one tree as the parts of a record. -/
theorem of_parts (hparts : ∀ part ∈ e.parts s, part.IsTree s)
    (hapart : (e.parts s).Pairwise (Entity.Apart s)) (hplain : e.IsPlain s) : e.IsTree s where
  apart x hx := by
    rcases hx.eq_or_exists_part with rfl | ⟨part, hpart, hx⟩
    · exact hapart
    · exact (hparts part hpart).apart x hx
  plain x hx := by
    rcases hx.eq_or_exists_part with rfl | ⟨part, hpart, hx⟩
    · exact hplain
    · exact (hparts part hpart).plain x hx

/-- A tree leads downwards. -/
theorem eq_or_rank_lt (h : e.IsTree s) (hx : e.Reaches s x) : e = x ∨ x.rank < e.rank := by
  induction hx with
  | refl => exact .inl rfl
  | tail hy hpart ih =>
    have hlt := rank_lt_of_mem_parts (h.plain _ hy) hpart
    rcases ih with rfl | hy
    · exact .inr hlt
    · exact .inr (Nat.lt_trans hlt hy)

/-- No part of a tree's record leads back to the record. -/
theorem not_reaches_of_part (h : e.IsTree s) (ha : a ∈ e.parts s) : ¬ a.Reaches s e := by
  intro hback
  have hlt := rank_lt_of_mem_parts (h.plain e (.refl s e)) ha
  rcases (h.of_reaches (.of_part ha)).eq_or_rank_lt hback with rfl | hgt
  · exact Nat.lt_irrefl _ hlt
  · exact Nat.lt_asymm hlt hgt

end IsTree

namespace Kept

theorem apart (ha : a.Kept s t) (hb : b.Kept s t) (h : a.Apart s b) : a.Apart t b :=
  h.congr (fun _ ↦ ha.reaches_iff) fun _ ↦ hb.reaches_iff

theorem isTree (h : e.Kept s t) (he : e.IsTree s) : e.IsTree t where
  apart x hx := by
    have hx' := h.reaches_iff.1 hx
    rw [(h x hx').parts_eq]
    refine (he.apart x hx').imp_of_mem fun ha hb ↦ ?_
    exact (h.of_reaches (hx'.tail ha)).apart (h.of_reaches (hx'.tail hb))
  plain x hx := by
    have hx' := h.reaches_iff.1 hx
    exact (h x hx').isPlain_iff.2 (he.plain x hx')

end Kept

end Entity

namespace Store

/-! ## Lists of fields -/

namespace ListsFields

variable {s : Store} {e x : Entity}

end ListsFields

/-! ## Stores that grow apart -/

/-- Whether a store goes on from another one: what there was is still there, and the same but for
the records that are `touched`, and all that records refer to besides is new. -/
structure GrowsApart (touched : Entity → Prop) (s t : Store) : Prop where
  /-- What there was is still there. -/
  exists_of_exists : ∀ e : Entity, e.Exists s → e.Exists t
  /-- It is the same, unless it was touched. -/
  same : ∀ e : Entity, e.Exists s → ¬ touched e → e.Same s t
  /-- A part of a record is one that the record had, or it is new. -/
  parts : ∀ e : Entity, e.Exists t → ∀ part ∈ e.parts t,
    e.Exists s ∧ part ∈ e.parts s ∨ ¬ part.Exists s

/-- Nothing is touched. -/
def Untouched : Entity → Prop := fun _ ↦ False

variable {touched : Entity → Prop} {s t u : Store} {e x : Entity}

namespace GrowsApart

theorem refl (touched : Entity → Prop) (s : Store) : s.GrowsApart touched s where
  exists_of_exists _ h := h
  same e _ _ := .refl s e
  parts _ he _ hpart := .inl ⟨he, hpart⟩

/-- What is touched later counts only if it was there at the start. -/
theorem trans {later : Entity → Prop} (h : s.GrowsApart touched t) (h' : t.GrowsApart later u)
    (hlater : ∀ e, e.Exists s → later e → touched e) : s.GrowsApart touched u where
  exists_of_exists e he := h'.exists_of_exists e (h.exists_of_exists e he)
  same e he hnot :=
    (h.same e he hnot).trans (h'.same e (h.exists_of_exists e he) fun hl ↦ hnot (hlater e he hl))
  parts e he part hpart := by
    rcases h'.parts e he part hpart with ⟨he, hpart⟩ | hnew
    · exact h.parts e he part hpart
    · exact .inr fun hold ↦ hnew (h.exists_of_exists part hold)

/-- What is new leads to nothing old. -/
theorem not_exists_of_reaches (h : s.GrowsApart touched t) (ht : t.Closed) (he : e.Exists t)
    (hnew : ¬ e.Exists s) (hx : e.Reaches t x) : ¬ x.Exists s := by
  induction hx with
  | refl => exact hnew
  | tail hy hpart ih =>
    have hy : e.Reaches t _ := hy
    rcases h.parts _ (hy.exists_of_closed ht he) _ hpart with ⟨hold, -⟩ | hx
    · exact absurd hold ih
    · exact hx

/-- What leads to nothing that was touched is kept. -/
theorem kept (h : s.GrowsApart touched t) (hs : s.Closed) (he : e.Exists s)
    (htouched : ∀ x, e.Reaches s x → ¬ touched x) : e.Kept s t :=
  fun x hx ↦ h.same x (hx.exists_of_closed hs he) (htouched x hx)

end GrowsApart

section

variable {α : Type} [Stored α] [Recorded α]

/-- What exists is kept when a record is made. -/
theorem kept_alloc (hs : s.Closed) (he : e.Exists s) (x : α) : e.Kept s (s.alloc x).2 :=
  fun _ hy ↦ same_alloc (hy.exists_of_closed hs he) x

theorem Closed.alloc (hs : s.Closed) {x : α}
    (hparts : ∀ part ∈ (Recorded.entity (s.alloc x).1).parts (s.alloc x).2, part.Exists s)
    (hloose : ∀ l ∈ (Recorded.entity (s.alloc x).1).looseRefs (s.alloc x).2,
      l.index < s.loose.size) :
    (s.alloc x).2.Closed where
  parts e he part hpart := by
    rcases exists_alloc.1 he with hold | rfl
    · rw [(same_alloc hold x).parts_eq] at hpart
      exact exists_alloc.2 (.inl (hs.parts e hold part hpart))
    · exact exists_alloc.2 (.inl (hparts part hpart))
  loose e he l hl := by
    rw [loose_alloc]
    rcases exists_alloc.1 he with hold | rfl
    · rw [(same_alloc hold x).looseRefs_eq] at hl
      exact hs.loose e hold l hl
    · exact hloose l hl

theorem Closed.modify (hs : s.Closed) {r : Ref α} {f : α → α}
    (hparts : ∀ part ∈ (Recorded.entity r).parts (s.modify r f), part.Exists s)
    (hloose : ∀ l ∈ (Recorded.entity r).looseRefs (s.modify r f), l.index < s.loose.size) :
    (s.modify r f).Closed where
  parts e he part hpart := by
    rw [exists_modify] at he ⊢
    by_cases heq : e = Recorded.entity r
    · exact hparts part (heq ▸ hpart)
    · rw [(same_modify heq f).parts_eq] at hpart
      exact hs.parts e he part hpart
  loose e he l hl := by
    rw [exists_modify] at he
    rw [loose_modify]
    by_cases heq : e = Recorded.entity r
    · exact hloose l (heq ▸ hl)
    · rw [(same_modify heq f).looseRefs_eq] at hl
      exact hs.loose e he l hl

theorem GrowsApart.alloc (h : s.GrowsApart touched t) {x : α}
    (hparts : ∀ part ∈ (Recorded.entity (t.alloc x).1).parts (t.alloc x).2, ¬ part.Exists s) :
    s.GrowsApart touched (t.alloc x).2 where
  exists_of_exists e he := exists_alloc.2 (.inl (h.exists_of_exists e he))
  same e he htouched := (h.same e he htouched).trans (same_alloc (h.exists_of_exists e he) x)
  parts e he part hpart := by
    rcases exists_alloc.1 he with hold | rfl
    · rw [(same_alloc hold x).parts_eq] at hpart
      exact h.parts e hold part hpart
    · exact .inr (hparts part hpart)

theorem GrowsApart.modify (h : s.GrowsApart touched t) {r : Ref α} {f : α → α}
    (hr : (Recorded.entity r).Exists s → touched (Recorded.entity r))
    (hparts : ∀ part ∈ (Recorded.entity r).parts (t.modify r f),
      part ∈ (Recorded.entity r).parts t ∨ ¬ part.Exists s) :
    s.GrowsApart touched (t.modify r f) where
  exists_of_exists e he := exists_modify.2 (h.exists_of_exists e he)
  same e he htouched :=
    (h.same e he htouched).trans (same_modify (by rintro rfl; exact htouched (hr he)) f)
  parts e he part hpart := by
    rw [exists_modify] at he
    by_cases heq : e = Recorded.entity r
    · rcases hparts part (heq ▸ hpart) with hold | hnew
      · exact h.parts e he part (heq ▸ hold)
      · exact .inr hnew
    · rw [(same_modify heq f).parts_eq] at hpart
      exact h.parts e he part hpart

end

/-! ## Loose items -/

theorem exists_allocLoose {item : Item} : e.Exists (s.allocLoose item).2 ↔ e.Exists s := by
  cases e <;> exact Iff.rfl

/-- Nothing that exists is different where something loose got a place. -/
theorem Closed.same_allocLoose (hs : s.Closed) (he : e.Exists s) (item : Item) :
    e.Same s (s.allocLoose item).2 := by
  cases e with
  | appearance r =>
    refine ⟨rfl, fun l hl ↦ ?_⟩
    have hplace : s.loose.Allocated ⟨l.index⟩ := hs.loose _ he l hl
    exact Table.get_push_of_allocated hplace item
  | settings value => trivial
  | _ => rfl

theorem Closed.allocLoose (hs : s.Closed) (item : Item) : (s.allocLoose item).2.Closed where
  parts e he part hpart := by
    rw [exists_allocLoose] at he ⊢
    rw [(hs.same_allocLoose he item).parts_eq] at hpart
    exact hs.parts e he part hpart
  loose e he l hl := by
    rw [exists_allocLoose] at he
    rw [(hs.same_allocLoose he item).looseRefs_eq] at hl
    have hsize : (s.allocLoose item).2.loose.size = s.loose.size + 1 := Table.size_push ..
    rw [hsize]
    exact Nat.lt_succ_of_lt (hs.loose e he l hl)

/-! ## Forests -/

/-- Whether a store goes on from another one, and certain records are the roots of trees of records
that were made since and have nothing in common. -/
structure Forest (touched : Entity → Prop) (s t : Store) (roots : List Entity) : Prop where
  /-- Whatever is referred to exists. -/
  closed : t.Closed
  /-- What was made since refers to nothing older. -/
  grows : s.GrowsApart touched t
  /-- The roots exist. -/
  exists_root : ∀ e ∈ roots, e.Exists t
  /-- They did not exist before. -/
  new : ∀ e ∈ roots, ¬ e.Exists s
  /-- They are the roots of trees. -/
  tree : ∀ e ∈ roots, e.IsTree t
  /-- The trees have nothing in common. -/
  apart : roots.Pairwise (Entity.Apart t)

namespace Forest

variable {roots more : List Entity}

theorem nil (touched : Entity → Prop) (hs : s.Closed) : s.Forest touched s [] where
  closed := hs
  grows := .refl touched s
  exists_root _ h := absurd h List.not_mem_nil
  new _ h := absurd h List.not_mem_nil
  tree _ h := absurd h List.not_mem_nil
  apart := .nil

/-- Whatever is in a tree is new. -/
theorem not_exists (h : s.Forest touched t roots) (he : e ∈ roots) (hx : e.Reaches t x) :
    ¬ x.Exists s :=
  h.grows.not_exists_of_reaches h.closed (h.exists_root e he) (h.new e he) hx

/-- What existed before has nothing in common with the trees, if all that it leads to has the parts
that it had. -/
theorem apart_of_parts_eq (h : s.Forest touched t roots) (hs : s.Closed) (he : e ∈ roots)
    (hx : x.Exists s) (hparts : ∀ y, x.Reaches s y → y.parts t = y.parts s) : x.Apart t e := by
  intro y hxy hey
  have hy : x.Reaches s y := (Entity.Reaches.congr hparts).1 hxy
  exact h.not_exists he hey (hy.exists_of_closed hs hx)

/-- What existed before has nothing in common with the trees, if it leads to nothing touched. -/
theorem apart_old (h : s.Forest touched t roots) (hs : s.Closed) (he : e ∈ roots)
    (hx : x.Exists s) (htouched : ∀ y, x.Reaches s y → ¬ touched y) : x.Apart t e :=
  h.apart_of_parts_eq hs he hx fun y hy ↦ (h.grows.kept hs hx htouched y hy).parts_eq

/-- More trees are made next to those that there are, and only what was there at the start is
touched. -/
theorem append_touching {later : Entity → Prop} (h : s.Forest touched t roots)
    (h' : t.Forest later u more) (hlater : ∀ e, later e → touched e ∧ e.Exists s) :
    s.Forest touched u (roots ++ more) := by
  have hnot {e : Entity} (he : e ∈ roots) : ∀ x, e.Reaches t x → ¬ later x :=
    fun x hx hl ↦ h.not_exists he hx (hlater x hl).2
  have hkept (e : Entity) (he : e ∈ roots) : e.Kept t u :=
    h'.grows.kept h.closed (h.exists_root e he) (hnot he)
  refine ⟨h'.closed, h.grows.trans h'.grows fun e _ hl ↦ (hlater e hl).1, ?_, ?_, ?_, ?_⟩
  · intro e he
    rcases List.mem_append.1 he with he | he
    · exact h'.grows.exists_of_exists e (h.exists_root e he)
    · exact h'.exists_root e he
  · intro e he
    rcases List.mem_append.1 he with he | he
    · exact h.new e he
    · exact fun hold ↦ h'.new e he (h.grows.exists_of_exists e hold)
  · intro e he
    rcases List.mem_append.1 he with he | he
    · exact (hkept e he).isTree (h.tree e he)
    · exact h'.tree e he
  · refine List.pairwise_append.2 ⟨?_, h'.apart, ?_⟩
    · exact h.apart.imp_of_mem fun ha hb hab ↦ (hkept _ ha).apart (hkept _ hb) hab
    · intro a ha b hb
      exact h'.apart_old h.closed hb (h.exists_root a ha) (hnot ha)

/-- More trees are made next to those that there are. -/
theorem append (h : s.Forest touched t roots) (h' : t.Forest Untouched u more) :
    s.Forest touched u (roots ++ more) :=
  h.append_touching h' fun _ ↦ False.elim

/-- While more trees are made, those that there are are kept. -/
theorem kept (h : s.Forest touched t roots) (h' : t.Forest Untouched u more) (he : e ∈ roots) :
    e.Kept t u :=
  h'.grows.kept h.closed (h.exists_root e he) fun _ _ ↦ not_false

variable {α : Type} [Stored α] [Recorded α]

/-- A new record takes up all trees as its parts, provided that it has them as parts wherever it
stands. -/
theorem alloc (h : s.Forest touched t roots) (x : α)
    (hx : ∀ (u : Store) (r : Ref α), u.get r = x → (Recorded.entity r).parts u = roots ∧
      (Recorded.entity r).IsPlain u ∧ (Recorded.entity r).looseRefs u = []) :
    s.Forest touched (t.alloc x).2 [Recorded.entity (t.alloc x).1] := by
  obtain ⟨hparts, hplain, hloose⟩ := hx _ _ (t.get_alloc x)
  have hnot : ¬ (Recorded.entity (t.alloc x).1).Exists s := fun hold ↦
    not_exists_alloc t x (h.grows.exists_of_exists _ hold)
  have hkept (e : Entity) (he : e ∈ roots) : e.Kept t (t.alloc x).2 :=
    kept_alloc h.closed (h.exists_root e he) x
  have hnoLoose : ∀ l ∈ (Recorded.entity (t.alloc x).1).looseRefs (t.alloc x).2,
      l.index < t.loose.size := fun l hl ↦ absurd (hloose ▸ hl) List.not_mem_nil
  refine ⟨h.closed.alloc (fun part hpart ↦ h.exists_root part (hparts ▸ hpart)) hnoLoose,
    h.grows.alloc fun part hpart ↦ h.new part (hparts ▸ hpart), ?_, ?_, ?_,
    List.pairwise_singleton _ _⟩
  · intro e he
    exact exists_alloc.2 (.inr (List.mem_singleton.1 he))
  · intro e he
    rwa [List.mem_singleton.1 he]
  · intro e he
    rw [List.mem_singleton.1 he]
    refine .of_parts (fun part hpart ↦ ?_) ?_ hplain
    · rw [hparts] at hpart
      exact (hkept part hpart).isTree (h.tree part hpart)
    · rw [hparts]
      exact h.apart.imp_of_mem fun ha hb hab ↦ (hkept _ ha).apart (hkept _ hb) hab

/-- Things that are each made as a tree are made as a forest in a row. -/
theorem mapM {β γ : Type} {f : β → Build γ} {root : γ → Entity} {xs : List β}
    (hf : ∀ x ∈ xs, ∀ s : Store, s.Closed → s.Forest Untouched (f x s).2 [root (f x s).1])
    (hs : s.Closed) :
    s.Forest Untouched (xs.mapM f s).2 ((xs.mapM f s).1.map root) := by
  induction xs generalizing s with
  | nil => exact .nil Untouched hs
  | cons x xs ih =>
    have hfirst := hf x List.mem_cons_self s hs
    have hrest := ih (fun y hy ↦ hf y (List.mem_cons_of_mem x hy)) hfirst.closed
    rw [List.mapM_cons]
    exact hfirst.append hrest

end Forest

/-! ## Grafting -/

/-- Whether a store is another one in which trees were grafted onto a record: they are parts of it
now, besides those that it had, and all other records are the same. -/
structure Graft (owner : Entity) (trees : List Entity) (s t : Store) : Prop where
  /-- All other records are the same. -/
  same : ∀ e, e ≠ owner → e.Same s t
  /-- The record has the trees as further parts. -/
  parts : (owner.parts t).Perm (trees ++ owner.parts s)
  /-- It is as it should be if it was. -/
  plain : owner.IsPlain s → owner.IsPlain t

namespace Graft

variable {owner root : Entity} {trees : List Entity}

theorem modify {α : Type} [Stored α] [Recorded α] (r : Ref α) (f : α → α)
    (hparts : ((Recorded.entity r).parts (s.modify r f)).Perm
      (trees ++ (Recorded.entity r).parts s))
    (hplain : (Recorded.entity r).IsPlain s → (Recorded.entity r).IsPlain (s.modify r f)) :
    s.Graft (Recorded.entity r) trees (s.modify r f) :=
  ⟨fun _ he ↦ same_modify he f, hparts, hplain⟩

/-- What does not lead to the record is kept. -/
theorem kept (h : s.Graft owner trees t) (he : ¬ e.Reaches s owner) : e.Kept s t :=
  fun _ hx ↦ h.same _ fun heq ↦ he (heq ▸ hx)

variable (h : s.Graft owner trees t) (hroot : root.IsTree s) (howner : root.Reaches s owner)
  (hnew : ∀ e ∈ trees, root.Apart s e)

include h howner hnew

theorem kept_tree (he : e ∈ trees) : e.Kept s t := h.kept (hnew e he owner howner)

/-- What leads further than before does so over the record and into one of the trees. -/
theorem reaches_or (hx : e.Reaches t x) :
    e.Reaches s x ∨ e.Reaches s owner ∧ ∃ tree ∈ trees, tree.Reaches s x := by
  induction hx with
  | refl => exact .inl (.refl s e)
  | @tail y part _ hpart ih =>
    rcases ih with hy | ⟨ho, tree, htree, hy⟩
    · by_cases heq : y = owner
      · subst heq
        rcases List.mem_append.1 (h.parts.mem_iff.1 hpart) with htree | hold
        · exact .inr ⟨hy, part, htree, .refl s part⟩
        · exact .inl (hy.tail hold)
      · rw [(h.same y heq).parts_eq] at hpart
        exact .inl (hy.tail hpart)
    · rw [((h.kept_tree howner hnew htree) y hy).parts_eq] at hpart
      exact .inr ⟨ho, tree, htree, hy.tail hpart⟩

/-- Two parts of the old tree still have nothing in common: only one of them can lead to the record
that the trees were grafted onto. -/
theorem apart {a b : Entity} (ha : root.Reaches s a) (hb : root.Reaches s b) (hab : a.Apart s b) :
    a.Apart t b := by
  intro x hax hbx
  rcases h.reaches_or howner hnew hax with hax | ⟨hao, tree, htree, hx⟩ <;>
    rcases h.reaches_or howner hnew hbx with hbx | ⟨hbo, tree', htree', hx'⟩
  · exact hab x hax hbx
  · exact hnew tree' htree' x (ha.trans hax) hx'
  · exact hnew tree htree x (hb.trans hbx) hx
  · exact hab owner hao hbo

include hroot

/-- **Grafting**: trees that have nothing in common with a tree become parts of it. -/
theorem isTree (htrees : ∀ e ∈ trees, e.IsTree s) (hapart : trees.Pairwise (Entity.Apart s)) :
    root.IsTree t := by
  have hkept (e : Entity) (he : e ∈ trees) : e.Kept s t := h.kept_tree howner hnew he
  constructor
  · intro x hx
    rcases h.reaches_or howner hnew hx with hx | ⟨-, tree, htree, hx⟩
    · have hold := (hroot.apart x hx).imp_of_mem fun ha hb hab ↦
        h.apart howner hnew (hx.tail ha) (hx.tail hb) hab
      by_cases heq : x = owner
      · subst heq
        rw [h.parts.pairwise_iff Entity.Apart.symm]
        refine List.pairwise_append.2 ⟨?_, hold, fun a ha b hb y hay hby ↦ ?_⟩
        · exact hapart.imp_of_mem fun ha hb hab ↦ (hkept _ ha).apart (hkept _ hb) hab
        · have hay' := (hkept a ha).reaches_iff.1 hay
          -- an old part does not lead back to the record, so it leads nowhere new
          have hb' : b.Kept s t := h.kept (((hroot.of_reaches hx).not_reaches_of_part hb))
          exact hnew a ha y ((hx.tail hb).trans (hb'.reaches_iff.1 hby)) hay'
      · rwa [(h.same x heq).parts_eq]
    · exact ((hkept tree htree).isTree (htrees tree htree)).apart x
        ((hkept tree htree).reaches_iff.2 hx)
  · intro x hx
    rcases h.reaches_or howner hnew hx with hx | ⟨-, tree, htree, hx⟩
    · by_cases heq : x = owner
      · subst heq
        exact h.plain (hroot.plain x hx)
      · exact (h.same x heq).isPlain_iff.2 (hroot.plain x hx)
    · exact ((hkept tree htree).isTree (htrees tree htree)).plain x
        ((hkept tree htree).reaches_iff.2 hx)

end Graft

end Store

end WorkflowArtifacts
