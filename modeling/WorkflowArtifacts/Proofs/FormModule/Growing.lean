import Mathlib.Data.List.Nodup
import Mathlib.Data.List.Pairwise
import WorkflowArtifacts.Proofs.FormModule.Additions
import WorkflowArtifacts.Store.Comparison

/-!
# Form modules grown by additions

A form module that was read from a document is a tree, and it stays one however much is added to it,
anywhere in it. So an addition shows in exactly one place of its content: one list has one more
member at its end (`Addition.performed_step`). What is refused leaves nothing behind, so only the
accepted additions count, and after any of them the form module is written as a document that reads
as the form module itself.

One addition adds to one record, whereas the content of a form module holds the contents of all
records. What leads from the one to the other is the way from the form module to the record: it is
the only one, so at each record on it exactly one part shows the addition
(`Content.AppendsOne.of_part`).
-/

namespace WorkflowArtifacts

open Build Schema

/-! ## From a record to what leads to it -/

namespace Entity

/-- Whether additions can be made to a record of this class, or to one that it may lead to. -/
def TakesAdditions : Entity → Prop
  | .formModule _ | .configuration _ | .form _ | .visibility _ | .appearance _ | .formField _
  | .control _ => True
  | _ => False

variable {s t : Store} {e x owner : Entity}

theorem TakesAdditions.of_part (hx : x.TakesAdditions) (hpart : x ∈ e.parts s) :
    e.TakesAdditions := by
  cases e with
  | process r =>
    obtain ⟨y, -, rfl⟩ := List.mem_map.1 hpart
    exact hx
  | contentModel r =>
    obtain ⟨y, -, rfl⟩ := List.mem_map.1 hpart
    exact hx
  | formModule r | configuration r | form r | visibility r | appearance r | formField r
  | control r => trivial
  | _ => exact absurd hpart List.not_mem_nil

end Entity

namespace Content.AppendsOne

/-- One member of a list has one more member, and it is the only one of its kind. -/
theorem of_member {α : Type} {refs : List α} {r : α} {before after : α → Content} (hr : r ∈ refs)
    (hnodup : refs.Nodup) (hothers : ∀ q ∈ refs, q ≠ r → after q = before q)
    (h : (before r).AppendsOne (after r)) :
    (Content.list (refs.map before)).AppendsOne (.list (refs.map after)) := by
  obtain ⟨front, back, rfl⟩ := List.append_of_mem hr
  have hnot : r ∉ front ++ back := (List.nodup_middle.1 hnodup).notMem
  rw [List.mem_append, not_or] at hnot
  have hfront : front.map after = front.map before := List.map_congr_left fun q hq ↦
    hothers q (List.mem_append_left _ hq) fun heq ↦ hnot.1 (heq ▸ hq)
  have hback : back.map after = back.map before := List.map_congr_left fun q hq ↦
    hothers q (List.mem_append_right _ (List.mem_cons_of_mem r hq)) fun heq ↦ hnot.2 (heq ▸ hq)
  rw [List.map_append, List.map_cons, List.map_append, List.map_cons, hfront, hback]
  exact .member _ _ h

variable {s t : Store} {e x : Entity}

/-- If one part of a record has one more member, so has the record, provided that it is the same
itself and so are its other parts. -/
theorem of_part (hx : x ∈ e.parts s) (hclass : x.TakesAdditions) (hsame : e.Same s t)
    (hplain : e.IsPlain s) (hnodup : (e.parts s).Nodup)
    (hothers : ∀ y ∈ e.parts s, y ≠ x → y.content t = y.content s)
    (h : (x.content s).AppendsOne (x.content t)) : (e.content s).AppendsOne (e.content t) := by
  cases e with
  | formModule r =>
    have hget : t.get r = s.get r := hsame
    obtain ⟨part, hpart, rfl⟩ := List.mem_map.1 hx
    change (s.formModuleContent r).AppendsOne (t.formModuleContent r)
    rw [Store.formModuleContent, Store.formModuleContent, hget]
    refine .field .formModule [_] [] "configurations" ?_
    refine of_member hpart (List.Nodup.of_map _ hnodup) (fun q hq hne ↦ ?_) h
    exact hothers (.configuration q) (List.mem_map_of_mem hq) fun heq ↦
      hne (Entity.configuration.inj heq)
  | configuration r =>
    have hget : t.get r = s.get r := hsame
    obtain ⟨part, hpart, rfl⟩ := List.mem_map.1 hx
    change (s.configurationContent r).AppendsOne (t.configurationContent r)
    rw [Store.configurationContent, Store.configurationContent, hget]
    refine .field .configuration [_, _] [] "forms" ?_
    refine of_member hpart (List.Nodup.of_map _ hnodup) (fun q hq hne ↦ ?_) h
    exact hothers (.form q) (List.mem_map_of_mem hq) fun heq ↦ hne (Entity.form.inj heq)
  | form r =>
    have hget : t.get r = s.get r := hsame
    change (s.formContent r).AppendsOne (t.formContent r)
    rw [Store.formContent, Store.formContent, hget]
    have hv := hothers (.visibility (s.get r).visibility) List.mem_cons_self
    have ha := hothers (.appearance (s.get r).appearance)
      (List.mem_cons_of_mem _ List.mem_cons_self)
    rcases List.mem_cons.1 hx with rfl | hx
    · rw [show t.appearanceContent _ = s.appearanceContent _ from ha (by simp)]
      exact .field .form [_] [_] "form_field_visibility" h
    · obtain rfl := List.mem_singleton.1 hx
      rw [show t.visibilityContent _ = s.visibilityContent _ from hv (by simp)]
      exact .field .form [_, _] [] "form_appearance" h
  | appearance r =>
    obtain ⟨hget, -⟩ : Entity.Same s t (.appearance r) := hsame
    obtain ⟨fields, hfields⟩ := Appearance.exists_fields hplain
    have hparts : (Entity.appearance r).parts s
        = (s.get r).sets.map .formSet ++ fields.map .formField :=
      Appearance.parts_eq (by rw [← hfields])
    rw [hparts] at hx hnodup hothers
    rcases List.mem_append.1 hx with hset | hfield
    · obtain ⟨part, -, rfl⟩ := List.mem_map.1 hset
      exact hclass.elim
    · obtain ⟨part, hpart, rfl⟩ := List.mem_map.1 hfield
      have hsets : (s.get r).sets.map t.formSetContent = (s.get r).sets.map s.formSetContent :=
        List.map_congr_left fun q hq ↦
          hothers (.formSet q) (List.mem_append_left _ (List.mem_map_of_mem hq)) (by simp)
      change (s.appearanceContent r).AppendsOne (t.appearanceContent r)
      rw [Store.appearanceContent, Store.appearanceContent, hget, hsets, hfields, List.map_map,
        List.map_map]
      refine .field .appearance [_] [] "form_fields" ?_
      have hnodupFields := (List.nodup_append.1 hnodup).2.1
      refine of_member hpart (List.Nodup.of_map _ hnodupFields) (fun q hq hne ↦ ?_) h
      exact hothers (.formField q) (List.mem_append_right _ (List.mem_map_of_mem hq)) fun heq ↦
        hne (Entity.formField.inj heq)
  | formField r =>
    have hget : t.get r = s.get r := hsame
    obtain ⟨control, hcontrol, rfl⟩ := List.mem_map.1 hx
    have hsome : (s.get r).control = some control := Option.mem_toList.1 hcontrol
    change (s.formFieldContent r).AppendsOne (t.formFieldContent r)
    rw [Store.formFieldContent, Store.formFieldContent, hget, hsome]
    exact .field .formField [_, _, _, _, _, _] [] "control" h
  | control r =>
    obtain ⟨part, -, rfl⟩ := List.mem_map.1 hx
    exact hclass.elim
  | process r =>
    obtain ⟨part, -, rfl⟩ := List.mem_map.1 hx
    exact hclass.elim
  | contentModel r =>
    obtain ⟨part, -, rfl⟩ := List.mem_map.1 hx
    exact hclass.elim
  | _ => exact absurd hx List.not_mem_nil

end Content.AppendsOne

/-! ## Appending to a tree -/

namespace Store

variable {s made t : Store} {l : Listing} {trees : List Entity} {item : Item} {root x : Entity}

namespace Appended

variable (hmade : s.Forest Untouched made trees) (h : made.Appended l trees item t)
include hmade h

theorem growsApart : s.GrowsApart (· = l.owner) t where
  exists_of_exists e he := (h.exists_iff e).2 (hmade.grows.exists_of_exists e he)
  same e he hne := (hmade.grows.same e he not_false).trans (h.same e hne)
  parts e he part hpart := by
    have he := (h.exists_iff e).1 he
    by_cases heq : e = l.owner
    · rw [heq] at hpart he ⊢
      rcases List.mem_append.1 (h.parts.mem_iff.1 hpart) with hnew | hold
      · exact .inr (hmade.new part hnew)
      · exact hmade.grows.parts l.owner he part hold
    · rw [(h.same e heq).parts_eq] at hpart
      exact hmade.grows.parts e he part hpart

theorem closed : t.Closed where
  parts e he part hpart := by
    rw [h.exists_iff] at he ⊢
    by_cases heq : e = l.owner
    · rw [heq] at hpart he
      rcases List.mem_append.1 (h.parts.mem_iff.1 hpart) with hnew | hold
      · exact hmade.exists_root part hnew
      · exact hmade.closed.parts l.owner he part hold
    · rw [(h.same e heq).parts_eq] at hpart
      exact hmade.closed.parts e he part hpart
  loose e he place hplace := by
    rw [h.exists_iff] at he
    rw [h.loose_eq]
    by_cases heq : e = l.owner
    · rw [heq, h.looseRefs, ← heq] at hplace
      exact hmade.closed.loose e he place hplace
    · rw [(h.same e heq).looseRefs_eq] at hplace
      exact hmade.closed.loose e he place hplace

/-- The list has one more member than before the member was made. -/
theorem members_eq (howner : l.owner.Exists s) : l.members t = l.members s ++ [item] := by
  rw [h.members, (hmade.grows.same _ howner not_false).members_eq]

/-- No other list has changed. -/
theorem members_eq_of_ne {other : Listing} (hother : other ≠ l) (howner : other.owner.Exists s) :
    other.members t = other.members s := by
  rw [← (hmade.grows.same _ howner not_false).members_eq]
  by_cases heq : other.owner = l.owner
  · exact h.others other heq hother
  · exact (h.same _ heq).members_eq

section

variable (hs : s.Closed) (hroot : root.IsTree s) (hexists : root.Exists s)
  (howner : root.Reaches s l.owner)
include hs hroot hexists howner

/-- A tree that is added to is a tree again. -/
theorem isTree : root.IsTree t := by
  have hkept : root.Kept s made := hmade.grows.kept hs hexists fun _ _ ↦ not_false
  refine h.toGraft.isTree (hkept.isTree hroot) (hkept.reaches_iff.2 howner) (fun e he ↦ ?_)
    hmade.tree hmade.apart
  exact hmade.apart_old hs he hexists fun _ _ ↦ not_false

/-- **One addition, one place**: of a tree that is added to, one list has one more member at its
end, and everything else is the same. -/
theorem content_appendsOne (hclass : l.owner.TakesAdditions) :
    (root.content s).AppendsOne (root.content t) := by
  have hkept (e : Entity) (he : e.Exists s) : e.Kept s made :=
    hmade.grows.kept hs he fun _ _ ↦ not_false
  -- what does not lead to the owner amounts to the same
  have hother {e : Entity} (he : e.Exists s) (hnot : ¬ e.Reaches s l.owner) :
      e.content t = e.content s := by
    have hnot' : ¬ e.Reaches made l.owner := fun hreach ↦ hnot ((hkept e he).reaches_iff.1 hreach)
    exact ((hkept e he).trans (h.kept hnot')).content_eq
  suffices hpath : ∀ {e : Entity}, e.Reaches s l.owner → root.Reaches s e →
      e.TakesAdditions ∧ (e.content s).AppendsOne (e.content t) from
    (hpath howner (.refl s root)).2
  intro e hpath
  induction hpath using Relation.ReflTransGen.head_induction_on with
  | refl =>
    intro hreach
    have hexists' : l.owner.Exists s := hreach.exists_of_closed hs hexists
    refine ⟨hclass, ?_⟩
    rw [← (hkept _ hexists').content_eq]
    have htree : l.owner.IsTree made := (hkept _ hexists').isTree (hroot.of_reaches hreach)
    exact h.content fun part hpart ↦ (h.kept (htree.not_reaches_of_part hpart)).content_eq
  | @head e part hpart hrest ih =>
    intro hreach
    obtain ⟨htakes, hpartContent⟩ := ih (hreach.tail hpart)
    refine ⟨htakes.of_part hpart, ?_⟩
    have htree := hroot.of_reaches hreach
    have hne : e ≠ l.owner := fun heq ↦ htree.not_reaches_of_part hpart (heq ▸ hrest)
    have hsame : e.Same s t := ((hkept e (hreach.exists_of_closed hs hexists)) e (.refl s e)).trans
      (h.same e hne)
    have hapart := htree.apart e (.refl s e)
    refine .of_part hpart htakes hsame (htree.plain e (.refl s e)) ?_ (fun y hy hyne ↦ ?_)
      hpartContent
    · exact hapart.imp Entity.Apart.ne
    · refine hother ((hreach.tail hy).exists_of_closed hs hexists) fun hyowner ↦ ?_
      exact hapart.forall hy hpart hyne l.owner hyowner hrest

end

end Appended

end Store

/-! ## Single additions -/

namespace Addition

variable {s : Store} {root : Entity}

/-- What an addition to a tree amounts to. It is refused, and nothing is done; or one list has one
more member at its end, and everything else is the same; or nothing is done, because the field is
shown already. -/
inductive Step (root : Entity) (a : Addition) (s : Store) : Except Fault Unit → Store → Prop
  /-- The arguments are refused. -/
  | refused (failure : Failure) : Step root a s (.error (.invalid failure)) s
  /-- A member is appended. -/
  | appended {t : Store} {item : Item}
    (content : (root.content s).AppendsOne (root.content t))
    (members : a.list.members t = a.list.members s ++ [item])
    (others : ∀ other : Listing, other ≠ a.list → other.owner.Exists s →
      other.members t = other.members s)
    (same : ∀ e : Entity, e ≠ a.owner → e.Exists s → e.Same s t) : Step root a s (.ok ()) t
  /-- The field is shown already. -/
  | shownAlready {owner : Ref Visibility} {id : String} (ha : a = .shown owner id)
    (h : (Json.text id).isAmong (s.get owner).shown) : Step root a s (.ok ()) s

/-- Whether there is a tree in a store that holds what it refers to. -/
structure HasTree (root : Entity) (s : Store) : Prop where
  /-- Whatever is referred to exists. -/
  closed : s.Closed
  /-- The root exists. -/
  exists_root : root.Exists s
  /-- It is the root of a tree. -/
  tree : root.IsTree s

theorem takesAdditions_owner (a : Addition) : a.owner.TakesAdditions := by
  cases a <;> trivial

/-- **One addition** to a tree, anywhere in it, leaves a tree. -/
theorem performed_step {a : Addition} (h : HasTree root s) (howner : root.Reaches s a.owner) :
    Step root a s (a.perform.run s).1 (a.perform.run s).2 ∧
      HasTree root (a.perform.run s).2 := by
  have hexists : a.owner.Exists s := howner.exists_of_closed h.closed h.exists_root
  cases hrun : a.perform.run s with
  | mk outcome t =>
    have hperformed := a.performed h.closed hexists
    rw [hrun] at hperformed
    cases hperformed with
    | refused failure => exact ⟨.refused failure, h⟩
    | shownAlready ha hshown => exact ⟨.shownAlready ha hshown, h⟩
    | appended hmade happended =>
      have hgrows := happended.growsApart hmade
      refine ⟨.appended ?_ (happended.members_eq hmade hexists)
        (fun _ ↦ happended.members_eq_of_ne hmade) fun e hne he ↦ hgrows.same e he hne, ?_⟩
      · exact happended.content_appendsOne hmade h.closed h.tree h.exists_root howner
          a.takesAdditions_owner
      · exact ⟨happended.closed hmade, hgrows.exists_of_exists root h.exists_root,
          happended.isTree hmade h.closed h.tree h.exists_root howner⟩

/-! ## Sequences of additions -/

/-- The store after additions were made one after the other, whether or not they were refused. -/
def performAll : List Addition → Store → Store
  | [], s => s
  | a :: rest, s => performAll rest (a.perform.run s).2

/-- The additions that are accepted when they are made one after the other. -/
def accepted : List Addition → Store → List Addition
  | [], _ => []
  | a :: rest, s =>
    match a.perform.run s with
    | (.ok (), t) => a :: accepted rest t
    | (.error _, t) => accepted rest t

/-- Whether each addition is accepted when they are made one after the other. -/
def AllAccepted : List Addition → Store → Prop
  | [], _ => True
  | a :: rest, s => (a.perform.run s).1 = .ok () ∧ AllAccepted rest (a.perform.run s).2

/-- Whether additions are made to what a record leads to at the moment. -/
def AllWithin (root : Entity) : List Addition → Store → Prop
  | [], _ => True
  | a :: rest, s => root.Reaches s a.owner ∧ AllWithin root rest (a.perform.run s).2

theorem performAll_append (before after : List Addition) (s : Store) :
    performAll (before ++ after) s = performAll after (performAll before s) := by
  induction before generalizing s with
  | nil => rfl
  | cons a rest ih => exact ih _

theorem allWithin_append {before after : List Addition} :
    AllWithin root (before ++ after) s ↔
      AllWithin root before s ∧ AllWithin root after (performAll before s) := by
  induction before generalizing s with
  | nil => simp [AllWithin, performAll]
  | cons a rest ih => simp [AllWithin, performAll, ih, and_assoc]

/-- A tree is one after any additions to it. -/
theorem performAll_hasTree {calls : List Addition} (h : HasTree root s)
    (hcalls : AllWithin root calls s) : HasTree root (performAll calls s) := by
  induction calls generalizing s with
  | nil => exact h
  | cons a rest ih => exact ih (performed_step h hcalls.1).2 hcalls.2

/-- The accepted additions alone do the same, and all of them are accepted then. -/
theorem performAll_accepted {calls : List Addition} (h : HasTree root s)
    (hcalls : AllWithin root calls s) :
    performAll (accepted calls s) s = performAll calls s ∧ AllAccepted (accepted calls s) s := by
  induction calls generalizing s with
  | nil => exact ⟨rfl, trivial⟩
  | cons a rest ih =>
    obtain ⟨hstep, htree⟩ := performed_step h hcalls.1
    obtain ⟨hsame, hall⟩ := ih htree hcalls.2
    rw [accepted]
    cases hrun : a.perform.run s with
    | mk outcome t =>
      rw [hrun] at hstep hsame hall
      simp only [performAll, hrun]
      cases outcome with
      | ok _ =>
        refine ⟨?_, ?_⟩
        · rw [performAll, hrun]
          exact hsame
        · rw [AllAccepted, hrun]
          exact ⟨rfl, hall⟩
      | error fault =>
        -- a refused addition leaves the store as it was
        cases hstep with
        | refused failure => exact ⟨hsame, hall⟩

end Addition

/-! ## Form modules -/

/-- Records that read as a document are written as one that is accepted, and its normal form is the
document that they read as. -/
theorem RecordClass.validate_write_of_reads (cls : RecordClass) {c : Content} {j : Json}
    (hcls : cls ≠ .settings) (hclosed : cls.shape.isClosed = true) (h : cls.shape.Reads c j)
    (style : Style) (room : Nat) (writeEntry : Item → Except Fault Json) :
    ∃ written, c.write style room writeEntry = .ok written ∧ cls.validate written = .ok j := by
  have hcoherent := RecordClass.isCoherent_shape hcls
  obtain ⟨hissues, hnormal⟩ : cls.shape.issues (cls.shape.render style j) = [] ∧
      cls.shape.normal (cls.shape.render style j) = j.finite :=
    Shape.read_render hcoherent h.isNormal
  have hfinite : j.finite = j :=
    Json.finite_eq_self_iff.2 (Shape.isFinite_of_isClosed hclosed h.isNormal)
  exact ⟨_, h.write_eq hcoherent, Shape.validate_eq_ok_iff.2 ⟨hissues, by rw [hnormal, hfinite]⟩⟩

/-- Records of equal content that reads as a document count as equal. -/
theorem Schema.Shape.Reads.same_entity {sh : Shape} {s : Store} {e f : Entity} {j : Json}
    (h : sh.Reads (e.content s) j) (hcontent : f.content s = e.content s) :
    (Item.entity e).same s (.entity f) = .ok true := by
  have hwithin (fuel : Nat) : (Item.entity e).sameWithin s (fuel + 1) (.entity f) = .ok true := by
    simp only [Item.sameWithin, Item.document?, hcontent, h.same_self, ite_self]
  exact hwithin 899

namespace Addition

/-- **Growing a form module**: a form module is read from an accepted document, and additions are
made one after the other, each to some part of the form module. Every addition is refused without a
trace, or appends one member to one list, and changes nothing else. Without the refused ones the
additions lead to the same end. There the form module is written, in any style, as a document that
is accepted, and reading that document gives a form module that is equal to the grown one. -/
theorem performAll_formModule {data document : Json}
    (hdocument : RecordClass.formModule.validate data = .ok document) {s start : Store}
    (hs : s.Closed) {formModule : Ref FormModule}
    (hload : FormModule.load document s = (formModule, start)) {calls : List Addition}
    (hcalls : AllWithin (.formModule formModule) calls start) :
    (∀ before a after, calls = before ++ a :: after →
      Step (.formModule formModule) a (performAll before start)
        (a.perform.run (performAll before start)).1 (performAll (before ++ [a]) start)) ∧
    performAll (accepted calls start) start = performAll calls start ∧
    AllAccepted (accepted calls start) start ∧
    ∀ style, ∃ written normal,
      (Entity.formModule formModule).write (performAll calls start) style = .ok written ∧
      RecordClass.formModule.validate written = .ok normal ∧
      ∀ copy last, FormModule.load normal (performAll calls start) = (copy, last) →
        last.formModuleContent copy = (performAll calls start).formModuleContent formModule ∧
        (Item.entity (.formModule copy)).same last (.entity (.formModule formModule))
          = .ok true := by
  obtain ⟨hissues, rfl⟩ := Shape.validate_eq_ok_iff.1 hdocument
  have hnormal := Shape.isNormal_normal (RecordClass.isCoherent_shape (by decide)) hissues
  have hstart := FormModule.loaded hnormal hs
  rw [hload] at hstart
  have htree : HasTree (.formModule formModule) start :=
    ⟨hstart.closed, hstart.exists_root _ (List.mem_singleton_self _),
      hstart.tree _ (List.mem_singleton_self _)⟩
  obtain ⟨hsame, hall⟩ := performAll_accepted htree hcalls
  refine ⟨?_, hsame, hall, fun style ↦ ?_⟩
  · rintro before a after rfl
    obtain ⟨hbefore, ha, -⟩ := allWithin_append.1 hcalls
    rw [performAll_append]
    exact (performed_step (performAll_hasTree htree hbefore) ha).1
  · have hend := performAll_hasTree htree hcalls
    generalize performAll calls start = grown at hend
    obtain ⟨j, hj⟩ := Store.exists_reads_formModule hend.tree.plain
    obtain ⟨written, hwritten, hagain⟩ := RecordClass.formModule.validate_write_of_reads
      (by decide) (by decide) hj style depthLimit
      (Item.writeAsField grown style depthLimit (Item.writeOpen grown style depthLimit []))
    refine ⟨written, j, hwritten, hagain, fun copy last hcopy ↦ ?_⟩
    have hloaded := FormModule.loaded hj.isNormal hend.closed
    rw [hcopy] at hloaded
    have hread : Shapes.formModule.Reads (last.formModuleContent copy) j :=
      hloaded.read_of_kept fun e _ ↦ .refl last e
    have hcontent : last.formModuleContent copy = grown.formModuleContent formModule :=
      hread.unique hj
    refine ⟨hcontent, ?_⟩
    -- the grown form module is the same after the copy was made
    have hkept : (Entity.formModule formModule).Kept grown last :=
      hloaded.grows.kept hend.closed hend.exists_root fun _ _ ↦ not_false
    exact hread.same_entity (hkept.content_eq.trans hcontent.symm)

/-- A form module with one empty form. -/
def oneForm : Json :=
  .object [("configurations", .array [.object [("forms", .array [.object []])]])]

/-- Its normal form. -/
def oneFormNormal : Json :=
  .object
    [("id", .null),
      ("configurations", .array [.object
        [("evaluator", .null), ("condition", .null),
          ("forms", .array [.object
            [("id", .null), ("form_field_visibility", Shapes.emptyVisibility),
              ("form_appearance", Shapes.emptyAppearance)]])]])]

/-- A store with nothing but that form module. -/
def oneFormStore : Store := (FormModule.load oneFormNormal Store.empty).2

/-- A field with a control, and a parameter of that control. -/
def fieldWithParameter : List Addition :=
  [.element ⟨0⟩ (.object [("id", .text "due"), ("control", .object [])]),
    .parameter ⟨0⟩ (.text "time") (.text "no")]

/-- The same after additions that show a field, twice, and two that are refused. -/
def toOneForm : List Addition :=
  [.shown ⟨0⟩ "due", .shown ⟨0⟩ "due", .form ⟨0⟩ (.bool true), .field ⟨0⟩ .null .null (.array [])]
    ++ fieldWithParameter

/-- The additions to that form module that are refused leave nothing behind, and the form module is
written as a document from which an equal one is read. -/
theorem performAll_formModule_oneForm :
    RecordClass.formModule.validate oneForm = .ok oneFormNormal ∧
    AllWithin (.formModule ⟨0⟩) toOneForm oneFormStore ∧
    performAll ([.shown ⟨0⟩ "due", .shown ⟨0⟩ "due"] ++ fieldWithParameter) oneFormStore
      = performAll toOneForm oneFormStore ∧
    ∀ style, ∃ written normal,
      (Entity.formModule ⟨0⟩).write (performAll toOneForm oneFormStore) style = .ok written ∧
      RecordClass.formModule.validate written = .ok normal ∧
      ∀ copy last, FormModule.load normal (performAll toOneForm oneFormStore) = (copy, last) →
        last.formModuleContent copy = (performAll toOneForm oneFormStore).formModuleContent ⟨0⟩ ∧
        (Item.entity (.formModule copy)).same last (.entity (.formModule ⟨0⟩)) = .ok true := by
  have hform (s : Store) (hm : (Entity.formModule ⟨0⟩).parts s = [.configuration ⟨0⟩])
      (hc : (Entity.configuration ⟨0⟩).parts s = [.form ⟨0⟩]) :
      (Entity.formModule ⟨0⟩).Reaches s (.form ⟨0⟩) :=
    (Entity.Reaches.of_part (hm ▸ List.mem_singleton_self _)).tail (hc ▸ List.mem_singleton_self _)
  have hcalls : AllWithin (.formModule ⟨0⟩) toOneForm oneFormStore := by
    refine ⟨(hform _ rfl rfl).tail (.head _), (hform _ rfl rfl).tail (.head _),
      Entity.Reaches.of_part (.head _), (hform _ rfl rfl).tail (.tail _ (.head _)),
      (hform _ rfl rfl).tail (.tail _ (.head _)), ?_, trivial⟩
    exact (((hform _ rfl rfl).tail (.tail _ (.head _))).tail (.head _)).tail (.head _)
  have hdocument : RecordClass.formModule.validate oneForm = .ok oneFormNormal := rfl
  obtain ⟨-, haccepted, -, hwrite⟩ := performAll_formModule hdocument Store.closed_empty
    (show FormModule.load oneFormNormal Store.empty = (⟨0⟩, oneFormStore) from rfl) hcalls
  exact ⟨hdocument, hcalls, haccepted, hwrite⟩

end Addition

end WorkflowArtifacts
