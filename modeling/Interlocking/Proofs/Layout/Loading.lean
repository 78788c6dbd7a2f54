/-
Loading a layout that was saved.

While the objects of a layout are added one after another, what is there so far is a
part of the layout: it has some of the stored objects (`PartOf`), and nobody has
reported or taken anything (`Fresh`). The next object can always be added. Its key is
new, since every key is stored once, and what it refers to is there, since the kinds
are loaded in the order in which they depend on each other (`inOrder`). That the
sensors of the next segment belong to nobody yet need not be kept in mind: if one of
them belonged to a segment that is there already, then it would belong to that
segment in the layout that was saved.
-/
import Interlocking.Proofs.Fields
import Interlocking.Proofs.Layout.Adding
import Interlocking.Proofs.Layout.Saving
import Interlocking.Proofs.Layout.SensorOwnership

set_option autoImplicit false

namespace Interlocking

/-! ## Stored forms -/

/-- What is read back from its stored form is told by the stored form. -/
theorem map_eq_of_map_write {k : Kind} {α β : Type} {r r' : Registry (Ident k) α}
    {idOf : β → Ident k} (part : α → β) {write : β → Fields} {read : Ident k → Fields → Except LayoutError β}
    (hread : ∀ b, read (idOf b) (write b) = .ok b)
    (hr : ∀ i a, r.get? i = some a → idOf (part a) = i)
    (hr' : ∀ i a, r'.get? i = some a → idOf (part a) = i) {i : Ident k}
    (heq : (r.get? i).map (fun a => write (part a)) = (r'.get? i).map fun a => write (part a)) :
    (r.get? i).map part = (r'.get? i).map part := by
  -- Reading undoes writing, also where nothing is registered.
  have hback : ∀ o : Option α, (∀ a, o = some a → idOf (part a) = i) →
      o.map part = (o.map fun a => write (part a)).bind fun f => (read i f).toOption := by
    intro o ho
    cases o with
    | none => rfl
    | some a =>
      rw [Option.map_some, Option.map_some, Option.bind_some, ← ho a rfl, hread]
      rfl
  rw [hback _ (hr i), heq, ← hback _ (hr' i)]

/-- The kinds that objects of a kind refer to. -/
def Kind.needs : Kind → List Kind
  | .sensor | .accessory | .loco => []
  | .segment => [.sensor]
  | .route => [.accessory, .sensor, .segment]

namespace Layout

variable {L M M' : Layout} {key : EntityKey} {f : Fields} {k : Kind}

/-! ## One more object -/

/-- Nobody has reported anything, and nobody holds anything. -/
structure Fresh (L : Layout) : Prop where
  sensors : ∀ s x, L.sensors.get? s = some x → x.state = .free
  accessories : ∀ id a, L.accessories.get? id = some a → a.lock = .free
  segments : ∀ t g, L.segments.get? t = some g → g.lock = .free ∧ g.pendingRelease = none

theorem Fresh.start (approach : Approach) (station : CommandStation) :
    Fresh { defaultApproach := approach, station := station } where
  sensors _ _ hx := nomatch hx
  accessories _ _ ha := nomatch ha
  segments _ _ hg := nomatch hg

/-- Adding the stored object leads from `M` to `M'`, where the object is found again
and everything else is as it was. -/
structure Enters (M : Layout) (key : EntityKey) (f : Fields) (M' : Layout) : Prop where
  added : M.addStored key f = (.ok (), M')
  stored : ∀ key', M'.stored key' = if key' = key then some f else M.stored key'
  fresh : M.Fresh → M'.Fresh

/-- An object that is entered in its registry is found under its key. -/
theorem stored_of_insert {α : Type} {i : Ident k} {r : Registry (Ident k) α} {a : α}
    {write : α → Fields} (hM : ∀ j : Ident k, M.stored j.key = (r.get? j).map write)
    (hM' : ∀ j : Ident k, M'.stored j.key = ((r.insert i a).get? j).map write)
    (ha : write a = f) (hother : ∀ key : EntityKey, key.kind ≠ k → M'.stored key = M.stored key)
    (key : EntityKey) : M'.stored key = if key = i.key then some f else M.stored key := by
  by_cases hkind : key.kind = k
  · obtain ⟨j, rfl⟩ := key.exists_ident hkind
    rw [hM', hM, Registry.get?_insert]
    by_cases hj : j = i
    · rw [if_pos hj, if_pos (congrArg Ident.key hj), Option.map_some, ha]
    · rw [if_neg hj, if_neg (mt Ident.key_inj.1 hj)]
  · have hne : key ≠ i.key := fun heq => hkind (congrArg EntityKey.kind heq)
    rw [if_neg hne, hother key hkind]

theorem enters_sensor {c : SensorConfig} (hnew : M.stored c.id.key = none) :
    M.Enters c.id.key c.toFields
      { M with sensors := M.sensors.insert c.id (.ofConfig c) } where
  added := by
    rw [← addSensor_of_new (Option.map_eq_none_iff.1 hnew)]
    exact congrArg (fun read => M.addRead read Layout.addSensor) c.ofFields_toFields
  stored := by
    refine stored_of_insert (fun _ => rfl) (fun _ => rfl) rfl fun key hkey => ?_
    rw [Layout.stored, Layout.stored]
    cases hkind : key.kind with
    | sensor => exact absurd hkind hkey
    | _ => rfl
  fresh h := ⟨forall_insert h.sensors rfl, h.accessories, h.segments⟩

theorem enters_accessory {c : AccessoryConfig} (hnew : M.stored c.id.key = none) :
    M.Enters c.id.key c.toFields
      { M with accessories := M.accessories.insert c.id (.ofConfig c) } where
  added := by
    rw [← addAccessory_of_new (Option.map_eq_none_iff.1 hnew)]
    exact congrArg (fun read => M.addRead read Layout.addAccessory) c.ofFields_toFields
  stored := by
    refine stored_of_insert (fun _ => rfl) (fun _ => rfl) rfl fun key hkey => ?_
    rw [Layout.stored, Layout.stored]
    cases hkind : key.kind with
    | accessory => exact absurd hkind hkey
    | _ => rfl
  fresh h := ⟨h.sensors, forall_insert h.accessories rfl, h.segments⟩

theorem enters_loco (c : Loco) : M.Enters c.id.key c.toFields (M.addLoco c) where
  added := congrArg (fun read => M.addRead read fun x L => (.ok (), L.addLoco x))
    c.ofFields_toFields
  stored := by
    refine stored_of_insert (fun _ => rfl) (fun _ => rfl) rfl fun key hkey => ?_
    rw [Layout.stored, Layout.stored]
    cases hkind : key.kind with
    | loco => exact absurd hkind hkey
    | _ => rfl
  fresh h := ⟨h.sensors, h.accessories, h.segments⟩

theorem enters_segment (hcalm : M.reaction = none) {c : SegmentConfig}
    (hlength : validLength c.length = true) (hnew : M.stored c.id.key = none)
    (hids : M.Wirable c.id c.sensors) : ∃ M', M.Enters c.id.key c.toFields M' := by
  obtain ⟨N, notices, hgiven, hsegment⟩ :=
    addSegment_of_wirable hcalm hlength (Option.map_eq_none_iff.1 hnew) hids
  obtain ⟨hconfig, hfree⟩ :=
    Segment.setSensors_ofConfig (c := c) hlength hids.map_fst_sensorStates
  generalize ((Segment.ofConfig c).setSensors (M.sensorStates c.sensors)).segment = g
    at hsegment hconfig hfree
  refine ⟨_, (congrArg (fun read => M.addRead read Layout.addSegment)
    c.ofFields_toFields).trans hsegment, ?_, fun h => ⟨fun s x hx => ?_, h.accessories,
    forall_insert h.segments hfree⟩⟩
  · refine stored_of_insert (fun _ => rfl) (fun _ => rfl) (congrArg _ hconfig) fun key hkey => ?_
    rw [stored, stored]
    cases hkind : key.kind with
    | segment => exact absurd hkind hkey
    | sensor =>
      -- Who owns a sensor is not stored.
      dsimp only
      rw [hgiven.sensors, Option.map_map]
      refine Option.map_congr fun x _ => ?_
      dsimp only [Function.comp_apply]
      split <;> rfl
    | _ => rfl
  · obtain ⟨y, hy, rfl⟩ := Option.map_eq_some_iff.1 ((hgiven.sensors s).symm.trans hx)
    split <;> exact h.sensors s y hy

theorem enters_route {r : Route} (hnew : M.stored r.config.id.key = none)
    (hrefs : M.missingReference r.config = none) :
    ∃ M', M.Enters r.config.id.key r.toFields M' := by
  obtain ⟨segments, hroute, hsegments⟩ :=
    addStampedRoute_of_referenced (Option.map_eq_none_iff.1 hnew) hrefs
  refine ⟨_, (congrArg (fun read => M.addRead read Layout.addStampedRoute)
    r.ofFields_toFields).trans hroute, ?_, fun h => ⟨h.sensors, h.accessories, fun t g hg => ?_⟩⟩
  · refine stored_of_insert (fun _ => rfl) (fun _ => rfl) rfl fun key hkey => ?_
    rw [stored, stored]
    cases hkind : key.kind with
    | route => exact absurd hkind hkey
    | segment =>
      -- The routes of a segment are not stored with it.
      dsimp only
      rw [hsegments, Option.map_map]
      refine Option.map_congr fun g _ => ?_
      dsimp only [Function.comp_apply]
      split
      · obtain ⟨routes, hnoted⟩ := g.addRoute_frame r.config.id r.config.priority
        rw [hnoted]
        rfl
      · rfl
    | _ => rfl
  · obtain ⟨g', hg', rfl⟩ := Option.map_eq_some_iff.1 ((hsegments t).symm.trans hg)
    split
    · obtain ⟨routes, hnoted⟩ := g'.addRoute_frame r.config.id r.config.priority
      rw [hnoted]
      exact h.segments t g' hg'
    · exact h.segments t g' hg'

/-! ## A part of a layout -/

/-- The stored objects of `L` whose keys are `done`, in a layout with a history and
nothing else to tell. -/
structure PartOf (L : Layout) (done : EntityKey → Prop) (M : Layout) : Prop where
  history : ∃ order, M.AddedInOrder order
  stored : ∀ key f, M.stored key = some f ↔ done key ∧ L.stored key = some f
  fresh : M.Fresh

theorem isSome_stored_sensor (s : SensorId) :
    (L.stored s.key).isSome = (L.sensors.get? s).isSome := Option.isSome_map

theorem isSome_stored_accessory (id : AccessoryId) :
    (L.stored id.key).isSome = (L.accessories.get? id).isSome := Option.isSome_map

theorem isSome_stored_segment (t : SegmentId) :
    (L.stored t.key).isSome = (L.segments.get? t).isSome := Option.isSome_map

/-- Everything that objects of a kind refer to has been loaded. -/
def Ready (L : Layout) (done : EntityKey → Prop) (k : Kind) : Prop :=
  ∀ key : EntityKey, key.kind ∈ k.needs → (L.stored key).isSome → done key

section Part

variable {done : EntityKey → Prop} (h : L.PartOf done M)

theorem PartOf.start (L : Layout) (approach : Approach) (station : CommandStation) :
    L.PartOf (fun _ => False) { defaultApproach := approach, station := station } where
  history := ⟨[], .start approach station⟩
  stored key f := by
    refine iff_of_false (fun hsome => ?_) (fun hsome => hsome.1)
    rw [Layout.stored] at hsome
    cases hkind : key.kind <;> rw [hkind] at hsome <;> cases hsome
  fresh := .start approach station

include h

theorem PartOf.congr {done' : EntityKey → Prop}
    (hdone : ∀ key, (L.stored key).isSome → (done' key ↔ done key)) : L.PartOf done' M where
  history := h.history
  stored key f := by
    rw [h.stored, and_congr_left_iff]
    intro hf
    rw [hdone key (by rw [hf]; rfl)]
  fresh := h.fresh

theorem PartOf.stored_eq_none (hkey : ¬ done key) : M.stored key = none := by
  cases hf : M.stored key with
  | none => rfl
  | some f => exact absurd ((h.stored key f).1 hf).1 hkey

/-- What the next object refers to is there. -/
theorem PartOf.isSome_stored (hready : L.Ready done k) (hkind : key.kind ∈ k.needs)
    (hkey : (L.stored key).isSome) : (M.stored key).isSome := by
  obtain ⟨f, hf⟩ := Option.isSome_iff_exists.1 hkey
  rw [(h.stored key f).2 ⟨hready key hkind hkey, hf⟩]
  rfl

theorem PartOf.enters (hM : M.Enters key f M') (hf : L.stored key = some f) :
    L.PartOf (fun key' => key' = key ∨ done key') M' where
  history := by
    obtain ⟨order, horder⟩ := h.history
    have hnext := horder.addStored key f
    rw [hM.added] at hnext
    exact ⟨_, hnext⟩
  stored key' f' := by
    rw [hM.stored]
    by_cases heq : key' = key
    · rw [if_pos heq, heq, hf, and_iff_right (.inl rfl)]
    · rw [if_neg heq, h.stored, or_iff_right heq]
  fresh := hM.fresh h.fresh

end Part

/-! ## The next object -/

section Next

variable {order : List RouteId} {done : EntityKey → Prop} (hL : L.AddedInOrder order)
  (h : L.PartOf done M)
include hL h

/-- A segment that has been loaded is configured as it was. -/
theorem PartOf.config_segment {t : SegmentId} (ht : (M.segments.get? t).isSome) :
    (M.segments.get? t).map Segment.config = (L.segments.get? t).map Segment.config := by
  obtain ⟨order', horder⟩ := h.history
  refine map_eq_of_map_write Segment.config SegmentConfig.ofFields_toFields horder.id_segment
    hL.id_segment ?_
  rw [← isSome_stored_segment] at ht
  obtain ⟨f, hf⟩ := Option.isSome_iff_exists.1 ht
  exact hf.trans ((h.stored _ f).1 hf).2.symm

/-- The sensors of the next segment are there and belong to nobody else. -/
theorem PartOf.wirable (hready : L.Ready done .segment) {t : SegmentId} {g : Segment}
    (hg : L.segments.get? t = some g) : M.Wirable t g.config.sensors := by
  have hwired := hL.wired.segments t g hg
  refine ⟨hwired.nodup, fun s hs => ?_⟩
  obtain ⟨x, hx, -⟩ := hwired.mem_sensorIds.1 hs
  have hsome : (L.sensors.get? s).isSome := by
    rw [hx]
    rfl
  rw [← isSome_stored_sensor] at hsome
  have hthere := h.isSome_stored hready (List.mem_singleton_self _) hsome
  rw [isSome_stored_sensor] at hthere
  obtain ⟨y, hy⟩ := Option.isSome_iff_exists.1 hthere
  refine ⟨y, hy, ?_⟩
  cases howner : y.owner with
  | none => exact .inl rfl
  | some t' =>
    -- The owner lists the sensor, and it has the list that it has in `L`.
    obtain ⟨order', horder⟩ := h.history
    obtain ⟨g', hg', hs'⟩ := horder.wired.listed hy howner
    have hconfig := h.config_segment hL (t := t') (by rw [hg']; rfl)
    rw [hg', Option.map_some, eq_comm, Option.map_eq_some_iff] at hconfig
    obtain ⟨g'', hg'', hconfig⟩ := hconfig
    have hlists : g''.sensorIds = g'.sensorIds := congrArg SegmentConfig.sensors hconfig
    rw [← hlists] at hs'
    rw [hL.wired.eq_of_mem_sensorIds hg'' hg hs' hs]
    exact .inr rfl

/-- What the next route refers to is there. -/
theorem PartOf.missingReference_eq_none (hready : L.Ready done .route) {r : RouteId} {x : Route}
    (hx : L.routes.get? r = some x) : M.missingReference x.config = none := by
  have hconfig : L.config? r = some x.config := by rw [config?, hx, Option.map_some]
  have href := hL.referenced
  refine missingReference_eq_none_iff.2 ⟨fun id hid => ?_, fun s hs => ?_, fun t ht => ?_⟩
  · have hthere := href.accessories r _ hconfig id hid
    rw [← isSome_stored_accessory] at hthere ⊢
    exact h.isSome_stored hready (by simp [Kind.needs, Ident.key]) hthere
  · have hthere := href.sensors r _ hconfig s hs
    rw [← isSome_stored_sensor] at hthere ⊢
    exact h.isSome_stored hready (by simp [Kind.needs, Ident.key]) hthere
  · have hthere := hL.linked.2.touched r _ hconfig t ht
    rw [← isSome_stored_segment] at hthere ⊢
    exact h.isSome_stored hready (by simp [Kind.needs, Ident.key]) hthere

/-- **The next object** can be added if what it refers to has been added before. -/
theorem PartOf.exists_enters (hf : L.stored key = some f) (hnew : ¬ done key)
    (hready : L.Ready done key.kind) : ∃ M', M.Enters key f M' := by
  obtain ⟨order', horder⟩ := h.history
  have hnone := h.stored_eq_none hnew
  -- Whatever the kind, the key belongs to the id that the object itself has.
  obtain ⟨kind, n⟩ := key
  cases kind with
  | sensor =>
    obtain ⟨x, hx, rfl⟩ := Option.map_eq_some_iff.1 hf
    have hkey : (⟨.sensor, n⟩ : EntityKey) = x.config.id.key :=
      congrArg Ident.key (hL.named.sensors _ x hx).symm
    rw [hkey] at hnone ⊢
    exact ⟨_, enters_sensor hnone⟩
  | accessory =>
    obtain ⟨a, ha, rfl⟩ := Option.map_eq_some_iff.1 hf
    have hkey : (⟨.accessory, n⟩ : EntityKey) = a.config.id.key :=
      congrArg Ident.key (hL.named.accessories _ a ha).symm
    rw [hkey] at hnone ⊢
    exact ⟨_, enters_accessory hnone⟩
  | loco =>
    obtain ⟨c, hc, rfl⟩ := Option.map_eq_some_iff.1 hf
    have hkey : (⟨.loco, n⟩ : EntityKey) = c.id.key :=
      congrArg Ident.key (hL.named.locos _ c hc).symm
    rw [hkey]
    exact ⟨_, enters_loco c⟩
  | segment =>
    obtain ⟨g, hg, rfl⟩ := Option.map_eq_some_iff.1 hf
    have hid := hL.id_segment _ g hg
    have hkey : (⟨.segment, n⟩ : EntityKey) = g.config.id.key := congrArg Ident.key hid.symm
    have hids := h.wirable hL hready hg
    rw [← hid] at hids
    rw [hkey] at hnone ⊢
    exact enters_segment horder.linked.1.calm (hL.named.lengths _ g hg) hnone hids
  | route =>
    obtain ⟨x, hx, rfl⟩ := Option.map_eq_some_iff.1 hf
    have hkey : (⟨.route, n⟩ : EntityKey) = x.config.id.key :=
      congrArg Ident.key (hL.id_route _ x hx).symm
    rw [hkey] at hnone ⊢
    exact enters_route hnone (h.missingReference_eq_none hL hready hx)

end Next

/-! ## Everything that is stored -/

/-- Whether each kind comes after the kinds that it refers to, and once, where the
kinds `seen` have come before. -/
def inOrder (seen : List Kind) : List Kind → Bool
  | [] => true
  | k :: kinds => decide (k ∉ seen ∧ ∀ k' ∈ k.needs, k' ∈ seen) && inOrder (k :: seen) kinds

section Stores

variable {σ : Type} [Store σ] {entities : σ → Registry EntityKey Fields}
  {make : Registry EntityKey Fields → σ} (hs : Store.Reliable σ entities make)
  {order : List RouteId} (hL : L.AddedInOrder order) {done : EntityKey → Prop}
include hs hL

theorem loadKeys_image (h : L.PartOf done M) (hready : L.Ready done k) {keys : List EntityKey}
    (hkeys : ∀ key ∈ keys, key.kind = k ∧ (L.stored key).isSome) (hnodup : keys.Nodup)
    (hnew : ∀ key ∈ keys, ¬ done key) :
    ∃ M', M.loadKeys (make L.image) k keys = (.ok (), M') ∧
      L.PartOf (fun key => key ∈ keys ∨ done key) M' := by
  induction keys generalizing done M with
  | nil => exact ⟨M, rfl, h.congr fun key _ => by simp⟩
  | cons key keys ih =>
    obtain ⟨hkind, hsome⟩ := hkeys key List.mem_cons_self
    obtain ⟨f, hf⟩ := Option.isSome_iff_exists.1 hsome
    obtain ⟨hfirst, hrest⟩ := List.nodup_cons.1 hnodup
    obtain ⟨N, hN⟩ := h.exists_enters hL hf (hnew key List.mem_cons_self) (hkind ▸ hready)
    have hload : Store.load key (make L.image) = .ok (some f) := by
      rw [hs.load, hs.entities_make, hL.get?_image, hf]
    -- The keys that come later are new after this object, too.
    have hlater : ∀ key' ∈ keys, ¬ (key' = key ∨ done key') := by
      rintro key' hkey' (rfl | hdone)
      · exact hfirst hkey'
      · exact hnew key' (List.mem_cons_of_mem _ hkey') hdone
    obtain ⟨M', hM', hpart⟩ := ih (h.enters hN hf)
      (fun key' hneeds hsome' => .inr (hready key' hneeds hsome'))
      (fun key' hkey' => hkeys key' (List.mem_cons_of_mem _ hkey')) hrest hlater
    refine ⟨M', ?_, hpart.congr fun key' _ => by simp [or_assoc, or_left_comm]⟩
    rw [loadKeys, hload]
    dsimp only
    rw [← hkind, hN.added]
    rw [hkind]
    exact hM'

theorem loadKinds_image {seen kinds : List Kind} (h : L.PartOf (fun key => key.kind ∈ seen) M)
    (hkinds : inOrder seen kinds = true) :
    ∃ M', M.loadKinds (make L.image) kinds = (.ok (), M') ∧
      L.PartOf (fun key => key.kind ∈ kinds ∨ key.kind ∈ seen) M' := by
  induction kinds generalizing seen M with
  | nil => exact ⟨M, rfl, h.congr fun key _ => by simp⟩
  | cons k kinds ih =>
    rw [inOrder, Bool.and_eq_true, decide_eq_true_iff] at hkinds
    obtain ⟨⟨hfirst, hneeds⟩, hrest⟩ := hkinds
    have hkeys : ∀ key, key ∈ k.keysIn L.image ↔ key.kind = k ∧ (L.stored key).isSome := by
      intro key
      rw [Kind.keysIn, List.mem_filter, Registry.mem_keys_iff, hL.get?_image, and_comm,
        decide_eq_true_iff]
    have hnew : ∀ key ∈ k.keysIn L.image, key.kind ∉ seen := by
      intro key hkey
      rwa [((hkeys key).1 hkey).1]
    obtain ⟨N, hN, hpart⟩ := loadKeys_image hs hL h (fun key hkind _ => hneeds _ hkind)
      (fun key => (hkeys key).1) (L.image.nodup_keys.filter _) hnew
    -- All of this kind that is stored has been loaded now.
    have hnext : L.PartOf (fun key => key.kind ∈ k :: seen) N :=
      hpart.congr fun key hsome => by simp [hkeys, hsome]
    obtain ⟨M', hM', hpart'⟩ := ih hnext hrest
    refine ⟨M', ?_, hpart'.congr fun key _ => by simp [or_assoc, or_left_comm]⟩
    rw [loadKinds, hs.keys, hs.entities_make]
    dsimp only
    rw [hN]
    exact hM'

/-- **Loading** a layout that was saved never fails, and it leaves nothing out. -/
theorem load_image (approach : Approach) (station : CommandStation) :
    ∃ M, load (make L.image) { defaultApproach := approach, station := station } = (.ok (), M) ∧
      L.PartOf (fun _ => True) M := by
  have hempty : L.PartOf (fun key => key.kind ∈ []) _ :=
    (PartOf.start L approach station).congr fun key _ => by simp
  have horder : inOrder [] Enumeration.all = true := by decide
  obtain ⟨M, hM, hpart⟩ := loadKinds_image hs hL hempty horder
  have hall : L.PartOf (fun _ => True) M :=
    hpart.congr fun key _ => iff_of_true trivial (.inl (Enumeration.mem_all key.kind))
  obtain ⟨order', hcounted⟩ := hall.history
  rw [load, hM]
  exact ⟨_, rfl, ⟨_, hcounted.count _⟩, hall.stored, hall.fresh.sensors, hall.fresh.accessories,
    hall.fresh.segments⟩

end Stores

end Layout
end Interlocking
