/-
What is registered under which id, in every layout that operations lead to.

Every object is registered under the id that it has (`Named`), since adding an object
takes the id from it and no operation changes an id. For segments this is part of
what is known of their lists of routes. The lengths of segments are told here, too:
they are checked where a segment is added or gets a new configuration.
-/
import Interlocking.Proofs.Layout.RouteLists
import Interlocking.Proofs.Layout.Wiring

set_option autoImplicit false

namespace Interlocking

/-! ## One object -/

theorem Accessory.id_call (a : Accessory) (c : Accessory.Call) :
    (a.call c).2.config.id = a.config.id := by
  have hstep : ∀ change : Lock → Option Lock, (a.step change).2.config.id = a.config.id := by
    intro change
    rw [step]
    split <;> rfl
  cases c with
  | reserve l =>
    rw [call, tryReserve]
    cases a.lock.reserve l <;> rfl
  | lock l =>
    rw [call, tryLock]
    cases a.lock.lock l <;> rfl
  | unlock | release | unreserve => exact hstep _
  | setOutput o => rfl

theorem Accessory.id_run (a : Accessory) (calls : List Accessory.Call) :
    (a.run calls).config.id = a.config.id :=
  List.foldlRecOn calls (motive := fun b : Accessory => b.config.id = a.config.id) _ rfl
    fun b hb c _ => (b.id_call c).trans hb

namespace Segment

variable {g : Segment} {c : Call}

theorem clampLength_of_valid {n : UInt16} (h : Layout.validLength n = true) : clampLength n = n := by
  rw [Layout.validLength, Bool.and_eq_true, decide_eq_true_iff, decide_eq_true_iff] at h
  rw [clampLength, UInt16.max_def, if_pos h.1, UInt16.min_def]
  split
  next hle => exact UInt16.le_antisymm hle h.2
  next => rfl

theorem validLength_clampLength (n : UInt16) : Layout.validLength (clampLength n) = true := by
  rw [Layout.validLength, Bool.and_eq_true, decide_eq_true_iff, decide_eq_true_iff, clampLength,
    UInt16.max_def, UInt16.min_def]
  split
  · split
    · exact ⟨by decide, UInt16.le_refl _⟩
    next hle hgt => exact ⟨hle, UInt16.le_of_lt (UInt16.not_le.1 hgt)⟩
  · split
    next habsurd => exact absurd habsurd (by decide)
    next => exact ⟨UInt16.le_refl _, by decide⟩

/-- No call gives a segment a length that a segment cannot have. -/
theorem validLength_call (hg : Layout.validLength g.length = true) (c : Call) :
    Layout.validLength (g.call c).segment.length = true := by
  have hsame : (g.call c).segment.length = g.length →
      Layout.validLength (g.call c).segment.length = true := by
    intro h
    rwa [h]
  cases hreport : c.isReport with
  | true =>
    obtain ⟨sensors, o, k, p, shown, h⟩ := g.report_frame hreport
    exact hsame (by rw [h])
  | false =>
    cases hsetting : c.isSetting with
    | false =>
      obtain ⟨k, p, shown, h⟩ := g.call_frame hsetting hreport
      exact hsame (by rw [h])
    | true =>
      cases c with
      | setLength n => exact validLength_clampLength n
      | addRoute r priority =>
        simp only [call, addRoute]
        split <;> exact hg
      | setOrientation o =>
        simp only [call, setOrientation]
        split <;> exact hg
      | setBlocked b =>
        simp only [call, setBlocked]
        split <;> exact hg
      | removeRoute | setName | setKind | setReleaseWhenFree | setApproach => exact hg
      | _ => cases hsetting

theorem validLength_run (hg : Layout.validLength g.length = true) (calls : List Call) :
    Layout.validLength (g.run calls).length = true :=
  List.foldlRecOn calls (motive := fun g' : Segment => Layout.validLength g'.length = true) _ hg
    fun _ hg c _ => validLength_call hg c

theorem validLength_ofConfig (c : SegmentConfig) :
    Layout.validLength (ofConfig c).length = true :=
  validLength_clampLength c.length

end Segment

namespace Layout

variable {L M N : Layout} {P Q : Deed → Prop} {order : List RouteId}

/-! ## The registries -/

/-- Accessories and routes are registered under their own ids, and every segment has
a length that a segment can have. -/
structure Filed (L : Layout) : Prop where
  accessories : ∀ id a, L.accessories.get? id = some a → a.config.id = id
  routes : ∀ r c, L.config? r = some c → c.id = r
  lengths : ∀ t g, L.segments.get? t = some g → validLength g.length = true

/-- So are sensors and locos. -/
structure Named (L : Layout) : Prop extends L.Filed where
  sensors : ∀ s x, L.sensors.get? s = some x → x.config.id = s
  locos : ∀ l c, L.locos.get? l = some c → c.id = l

section Registries

variable {κ α : Type} [Ord κ] [Std.LawfulEqOrd κ] [DecidableEq κ] {r : Registry κ α}
  {p : κ → α → Prop}

theorem forall_insert [Std.TransOrd κ] (h : ∀ k a, r.get? k = some a → p k a) {k : κ} {a : α}
    (ha : p k a) : ∀ k' a', (r.insert k a).get? k' = some a' → p k' a' := by
  intro k' a' ha'
  rw [Registry.get?_insert] at ha'
  split at ha'
  next heq =>
    obtain rfl := Option.some.inj ha'
    rwa [heq]
  next => exact h k' a' ha'

theorem forall_erase (h : ∀ k a, r.get? k = some a → p k a) (k : κ) :
    ∀ k' a', (r.erase k).get? k' = some a' → p k' a' := by
  intro k' a' ha'
  rw [Registry.get?_erase] at ha'
  split at ha'
  · cases ha'
  · exact h k' a' ha'

end Registries

theorem Filed.of_same (h : L.Filed) (hsegments : M.segments = L.segments)
    (haccessories : M.accessories = L.accessories) (hroutes : M.routes = L.routes) : M.Filed where
  accessories := by
    rw [haccessories]
    exact h.accessories
  routes := by
    simp only [config?, hroutes]
    exact h.routes
  lengths := by
    rw [hsegments]
    exact h.lengths

theorem Filed.called (h : L.Filed) (hM : L.Called P M) : M.Filed where
  accessories id a' ha' := by
    obtain ⟨calls, -, hsame⟩ := hM.accessories id
    obtain ⟨a, ha, rfl⟩ := Option.map_eq_some_iff.1 (hsame.symm.trans ha')
    rw [a.id_run, h.accessories id a ha]
  routes r c hc := h.routes r c ((hM.routes r).symm.trans hc)
  lengths t g' hg' := by
    obtain ⟨calls, -, hsame⟩ := hM.segments t
    obtain ⟨g, hg, rfl⟩ := Option.map_eq_some_iff.1 (hsame.symm.trans hg')
    exact Segment.validLength_run (h.lengths t g hg) calls

/-- Noting or forgetting a route has nothing to do with the length of a segment. -/
theorem Filed.modifySegments (h : L.Filed) {ids : List SegmentId} {change : Segment → Segment}
    (hagain : ∀ g, change (change g) = change g) {c : Segment.Call}
    (hchange : ∀ g, change g = (g.call c).segment) : (L.modifySegments ids change).Filed where
  accessories := by
    rw [modifySegments_eq]
    exact h.accessories
  routes := by
    rw [config?_modifySegments]
    exact h.routes
  lengths t g' hg' := by
    rw [get?_modifySegments hagain] at hg'
    obtain ⟨g, hg, rfl⟩ := Option.map_eq_some_iff.1 hg'
    split
    · rw [hchange]
      exact Segment.validLength_call (h.lengths t g hg) c
    · exact h.lengths t g hg

/-- No operation registers an accessory or a route under an id that is not its own, or
gives a segment a length out of range. -/
theorem Filed.does (h : L.Filed) (hM : L.Does P M) : M.Filed := by
  cases hM with
  | calls hM => exact h.called hM
  | addsSegment hM c sensors hnew =>
    have hcalled := h.called hM
    have hlength := Segment.validLength_call (Segment.validLength_ofConfig c) (.setSensors sensors)
    exact ⟨hcalled.accessories, hcalled.routes, forall_insert hcalled.lengths hlength⟩
  | deletesSegment hM hg huse hroutes =>
    have hcalled := h.called hM
    exact ⟨hcalled.accessories, hcalled.routes, forall_erase hcalled.lengths _⟩
  | addsAccessory c hnew =>
    exact ⟨forall_insert h.accessories rfl, h.routes, h.lengths⟩
  | deletesAccessory ha hfree hunused =>
    exact ⟨forall_erase h.accessories _, h.routes, h.lengths⟩
  | addsRoute c hnew hrefs =>
    have hadded : Filed { L with routes := L.routes.insert c.id { config := c } } := by
      refine ⟨h.accessories, fun r c' hc' => ?_, h.lengths⟩
      rw [config?, Registry.get?_insert] at hc'
      split at hc'
      next heq =>
        cases hc'
        exact heq.symm
      next => exact h.routes r c' hc'
    exact hadded.modifySegments (fun _ => Segment.addRoute_addRoute)
      (c := .addRoute c.id c.priority) fun _ => rfl
  | @deletesRoute r x hr =>
    have herased : Filed { L with routes := L.routes.erase r } := by
      refine ⟨h.accessories, fun r' c' hc' => ?_, h.lengths⟩
      rw [config?, Registry.get?_erase] at hc'
      split at hc'
      · cases hc'
      · exact h.routes r' c' hc'
    exact herased.modifySegments (fun _ => Segment.removeRoute_removeRoute)
      (c := .removeRoute r) fun _ => rfl

/-- No operation registers a sensor or a loco under an id that is not its own. -/
theorem Named.affects (h : L.Named) (hM : L.Affects M) :
    (∀ s x, M.sensors.get? s = some x → x.config.id = s) ∧
      ∀ l c, M.locos.get? l = some c → c.id = l := by
  cases hM with
  | unheard hM =>
    rw [hM.sensors, hM.locos]
    exact ⟨h.sensors, h.locos⟩
  | addsSensor c hnew => exact ⟨forall_insert h.sensors rfl, h.locos⟩
  | deletesSensor => exact ⟨forall_erase h.sensors _, h.locos⟩
  | @hears M s x state hx hsensors hsegments hlocos =>
    rw [hsensors, hlocos]
    exact ⟨forall_insert h.sensors (h.sensors s x hx), h.locos⟩
  | wires ids dropped hids hdropped hold hsensors hsegments hg hsettled hlocos =>
    rw [hlocos]
    refine ⟨fun s y hy => ?_, h.locos⟩
    obtain ⟨x, hx, rfl⟩ := Option.map_eq_some_iff.1 ((hsensors s).symm.trans hy)
    rw [← h.sensors s x hx]
    split
    · rfl
    · split
      · rw [config_detach]
      · rfl
  | unwires hg hsensors hsegments hlocos =>
    rw [hlocos]
    refine ⟨fun s y hy => ?_, h.locos⟩
    obtain ⟨x, hx, rfl⟩ := Option.map_eq_some_iff.1 ((hsensors s).symm.trans hy)
    rw [← h.sensors s x hx]
    split
    · rw [config_detach]
    · rfl
  | addsLoco c => exact ⟨h.sensors, forall_insert h.locos rfl⟩
  | deletesLoco l => exact ⟨h.sensors, forall_erase h.locos l⟩

/-- **Ids and lengths** are in order in every layout that operations lead to. -/
theorem AddedInOrder.named (h : L.AddedInOrder order) : L.Named := by
  induction h with
  | start approach station =>
    refine ⟨⟨?_, ?_, ?_⟩, ?_, ?_⟩
    all_goals
      intro _ _ hnone
      cases hnone
  | call h c ih =>
    have hsound := h.linked.1
    obtain ⟨hsensors, hlocos⟩ := ih.affects (affects_call hsound c)
    exact ⟨ih.toFiled.does (does_call hsound c), hsensors, hlocos⟩
  | addStored h key f ih =>
    have hcalm := h.linked.1.calm
    obtain ⟨hsensors, hlocos⟩ := ih.affects (affects_addStored hcalm key f)
    obtain ⟨N, hadds, hstamps⟩ := does_addStored (P := fun _ => False) hcalm key f
    exact ⟨(ih.toFiled.does hadds).called hstamps, hsensors, hlocos⟩
  | count _ _ ih | elsewhere _ _ _ ih =>
    exact ⟨ih.toFiled.of_same rfl rfl rfl, ih.sensors, ih.locos⟩

end Layout
end Interlocking
