/-
The layouts that operations lead to.

A layout begins without objects and is changed by calls and by loading. What
the command station does on its own account between two operations, and who
collects the notices, is left open. `Reachable` says this, and a statement
"after any sequence of operations" is a statement about reachable layouts.

Here it is shown that reachable layouts are sound: an operation of the layout
drops a reservation of a segment only in order to put back what it has just
taken, and then the segment is as it was before.
-/
import Interlocking.Proofs.Layout.Step

set_option autoImplicit false

namespace Interlocking.Layout

variable {L M : Layout}

/-- The layouts that operations lead to. -/
inductive Reachable : Layout → Prop where
  | start (approach : Approach) (station : CommandStation) :
      Reachable { defaultApproach := approach, station := station }
  | call {L : Layout} (hL : Reachable L) (c : Call) : Reachable (L.call c).2
  | load {L : Layout} {σ : Type} [Store σ] (hL : Reachable L) (s : σ) : Reachable (L.load s).2
  | elsewhere {L : Layout} (hL : Reachable L) (station : CommandStation)
      (notices : List Snapshot) : Reachable { L with station := station, notices := notices }

theorem Reachable.run (hL : L.Reachable) (calls : List Call) : (L.run calls).Reachable := by
  induction calls generalizing L with
  | nil => exact hL
  | cons c calls ih => exact ih (hL.call c)

/-- The layouts that operations lead to from a given one, if all the calls among
them are calls that `P` admits. -/
inductive Reaches (P : Call → Prop) (L : Layout) : Layout → Prop where
  | refl : Reaches P L L
  | call {M : Layout} (h : Reaches P L M) {c : Call} (hc : P c) : Reaches P L (M.call c).2
  | load {M : Layout} {σ : Type} [Store σ] (h : Reaches P L M) (s : σ) : Reaches P L (M.load s).2
  | elsewhere {M : Layout} (h : Reaches P L M) (station : CommandStation)
      (notices : List Snapshot) : Reaches P L { M with station := station, notices := notices }

theorem Reaches.run {P : Call → Prop} (h : L.Reaches P M) {calls : List Call}
    (hcalls : ∀ c ∈ calls, P c) : L.Reaches P (M.run calls) :=
  List.foldlRecOn calls _ h fun _ h c hc => h.call (hcalls c hc)

/-! ## Loading

Loading adds objects one after another and then counts uses on. What adding an
object keeps, loading keeps, wherever it stops. -/

section Loading

variable {σ : Type} [Store σ] {P : Layout → Prop} {s : σ}

/-- The object that loading finds for a key among the objects of a kind. -/
def Finds (s : σ) (k : Kind) (key : EntityKey) (f : Fields) : Prop :=
  (∃ keys, Store.keys k s = .ok keys ∧ key ∈ keys) ∧ Store.load key s = .ok (some f)

theorem loadKeys_keeps {k : Kind} {keys : List EntityKey}
    (hadd : ∀ key ∈ keys, ∀ f, Store.load key s = .ok (some f) →
      ∀ L, P L → P (L.addStored ⟨k, key.number⟩ f).2)
    (hL : P L) : P (L.loadKeys s k keys).2 := by
  induction keys generalizing L with
  | nil => exact hL
  | cons key keys ih =>
    have hrest := fun key' hkey' => hadd key' (List.mem_cons_of_mem _ hkey')
    rw [loadKeys]
    cases hload : Store.load key s with
    | error e => exact hL
    | ok stored =>
      cases stored with
      | none => exact ih hrest hL
      | some f =>
        have hnext : P (L.addStored ⟨k, key.number⟩ f).2 :=
          hadd key List.mem_cons_self f hload L hL
        dsimp only
        generalize L.addStored ⟨k, key.number⟩ f = added at hnext
        obtain ⟨_ | _, L'⟩ := added
        · exact hnext
        · exact ih hrest hnext

theorem loadKinds_keeps
    (hadd : ∀ k key f, Finds s k key f → ∀ L, P L → P (L.addStored ⟨k, key.number⟩ f).2)
    (kinds : List Kind) (hL : P L) : P (L.loadKinds s kinds).2 := by
  induction kinds generalizing L with
  | nil => exact hL
  | cons k kinds ih =>
    rw [loadKinds]
    cases hkeys : Store.keys k s with
    | error e => exact hL
    | ok keys =>
      have hnext : P (L.loadKeys s k keys).2 :=
        loadKeys_keeps (fun key hkey f hload => hadd k key f ⟨⟨keys, hkeys, hkey⟩, hload⟩) hL
      dsimp only
      generalize L.loadKeys s k keys = loaded at hnext
      obtain ⟨_ | _, L'⟩ := loaded
      · exact hnext
      · exact ih hnext

theorem load_keeps (hadd : ∀ key f L, P L → P (L.addStored key f).2)
    (hcount : ∀ n L, P L → P { L with useCounter := n }) (s : σ) (hL : P L) :
    P (L.load s).2 := by
  have hnext : P (L.loadKinds s Enumeration.all).2 :=
    loadKinds_keeps (fun k key f _ => hadd ⟨k, key.number⟩ f) _ hL
  rw [load]
  generalize L.loadKinds s Enumeration.all = loaded at hnext
  obtain ⟨_ | _, L'⟩ := loaded
  · exact hnext
  · exact hcount _ _ hnext

end Loading

/-! ## Soundness -/

section Operations

variable {P : Deed → Prop} (hP : ∀ t l, ¬ P (.segment t (.unreserve l)))
include hP

theorem Sound.called (hL : L.Sound) (h : L.Called P M) : M.Sound := by
  refine ⟨h.calm hL.calm, fun t g' hg' => ?_⟩
  obtain ⟨calls, hcalls, hM⟩ := h.segments t
  obtain ⟨g, hg, rfl⟩ := Option.map_eq_some_iff.1 (hM.symm.trans hg')
  refine (hL.segments t g hg).run fun c hc l heq => ?_
  exact hP t l (heq ▸ hcalls c hc)

omit hP in
/-- Noting or forgetting a route is a call like any other, as far as soundness
goes. -/
theorem Sound.modifySegments (hL : L.Sound) (ids : List SegmentId) {change : Segment → Segment}
    (hchange : ∀ g, g.Ordinary → (change g).Ordinary) : (L.modifySegments ids change).Sound := by
  induction ids generalizing L with
  | nil => exact hL
  | cons t ids ih =>
    refine ih ⟨hL.calm, fun t' g' hg' => ?_⟩
    rw [Registry.get?_modify] at hg'
    split at hg'
    · obtain ⟨g, hg, rfl⟩ := Option.map_eq_some_iff.1 hg'
      exact hchange g (hL.segments t' g hg)
    · exact hL.segments t' g' hg'

/-- An operation that drops no reservation leaves a sound layout sound. -/
theorem Sound.does (hL : L.Sound) (h : L.Does P M) : M.Sound := by
  cases h with
  | calls h => exact hL.called hP h
  | addsSegment h c sensors hnew =>
    have hordinary := (Segment.Ordinary.ofConfig c).call (.setSensors sensors) (by simp)
    exact (hL.called hP h).insert c.id hordinary
  | deletesSegment h hg huse hroutes =>
    have hM := hL.called hP h
    refine ⟨hM.calm, fun t' g' hg' => ?_⟩
    dsimp only at hg'
    rw [Registry.get?_erase] at hg'
    split at hg'
    · cases hg'
    · exact hM.segments t' g' hg'
  | addsAccessory | deletesAccessory => exact ⟨hL.calm, hL.segments⟩
  | addsRoute c hnew hrefs =>
    have hnoted : Sound { L with routes := L.routes.insert c.id { config := c } } :=
      ⟨hL.calm, hL.segments⟩
    exact hnoted.modifySegments _ fun g hg => hg.call (.addRoute c.id c.priority) (by simp)
  | @deletesRoute r x hr =>
    have herased : Sound { L with routes := L.routes.erase r } := ⟨hL.calm, hL.segments⟩
    exact herased.modifySegments _ fun g hg => hg.call (.removeRoute r) (by simp)

end Operations

/-- No operation drops a reservation, except to put back what it has just taken. -/
theorem Call.Makes.ne_unreserve {c : Call} {t : SegmentId} {l : LocoId} :
    ¬ c.Makes (.segment t (.unreserve l)) := by
  intro h
  cases h with
  | updateSegment c sensors h => simp [settingCalls] at h

theorem Sound.call (hL : L.Sound) (c : Call) : (L.call c).2.Sound :=
  hL.does (fun _ _ => Call.Makes.ne_unreserve) (does_call hL c)

/-- Adding a stored object makes no calls at all. -/
theorem Sound.addStored (hL : L.Sound) (key : EntityKey) (f : Fields) :
    (L.addStored key f).2.Sound := by
  obtain ⟨M, hadds, hstamps⟩ := does_addStored (P := fun _ => False) hL.calm key f
  exact (hL.does (fun _ _ => id) hadds).called (fun _ _ => id) hstamps

/-- **Reachable layouts are sound.** -/
theorem Reachable.sound (hL : L.Reachable) : L.Sound := by
  induction hL with
  | start approach station => exact ⟨rfl, fun _ _ hg => nomatch hg⟩
  | call _ c ih => exact ih.call c
  | load _ s ih =>
    exact load_keeps (fun key f _ hM => hM.addStored key f) (fun _ _ hM => ⟨hM.calm, hM.segments⟩)
      s ih
  | elsewhere _ _ _ ih => exact ⟨ih.calm, ih.segments⟩

end Interlocking.Layout
