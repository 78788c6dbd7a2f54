/-
Loading leaves what is registered as it is, but for locos.

An object is added under an id that is new, and a stored object whose id is taken ends
the loading with an error. So whether everything was loaded or not, what was registered
before is registered afterwards and is what it was (`Keeps`), and loading that succeeds
has come across no id that was taken.

Locos are added by an operation that replaces the loco with the same id, and loading
asks nobody before it calls it. `NeverOverwrites` is what one expects of all five kinds, and
`load_overwrites_only_locos` tells exactly when it fails: a registered loco was among
the stored ones and loading succeeded, or loading broke off after it had replaced a loco
by a different one.
-/
import Interlocking.Proofs.Layout.Loading
import Interlocking.Proofs.Layout.Stamps

set_option autoImplicit false

namespace Interlocking

/-! ## What was read has the id that it was looked for under -/

theorem SensorConfig.id_of_ofFields {id : SensorId} {f : Fields} {c : SensorConfig}
    (h : SensorConfig.ofFields id f = .ok c) : c.id = id := by
  unfold SensorConfig.ofFields at h
  simp only [bind, Except.bind, pure, Except.pure] at h
  repeat' split at h
  all_goals cases h
  rfl

theorem AccessoryConfig.id_of_ofFields {id : AccessoryId} {f : Fields} {c : AccessoryConfig}
    (h : AccessoryConfig.ofFields id f = .ok c) : c.id = id := by
  unfold AccessoryConfig.ofFields at h
  simp only [bind, Except.bind, pure, Except.pure] at h
  repeat' split at h
  all_goals cases h
  rfl

theorem SegmentConfig.id_of_ofFields {id : SegmentId} {f : Fields} {c : SegmentConfig}
    (h : SegmentConfig.ofFields id f = .ok c) : c.id = id := by
  unfold SegmentConfig.ofFields at h
  simp only [bind, Except.bind, pure, Except.pure] at h
  repeat' split at h
  all_goals cases h
  rfl

theorem Loco.id_of_ofFields {id : LocoId} {f : Fields} {c : Loco}
    (h : Loco.ofFields id f = .ok c) : c.id = id := by
  unfold Loco.ofFields at h
  simp only [bind, Except.bind, pure, Except.pure] at h
  repeat' split at h
  all_goals cases h
  rfl

namespace Layout

variable {L M N : Layout} {k : Kind} {key : EntityKey} {f : Fields}

/-! ## What is kept -/

/-- Everything in `L`, but for locos, is in `M` as it was. A sensor may have got an
owner, and new routes may touch a segment. -/
structure Keeps (L M : Layout) : Prop where
  sensors : ∀ s x, L.sensors.get? s = some x →
    ∃ owner, M.sensors.get? s = some { x with owner := owner }
  accessories : ∀ id a, L.accessories.get? id = some a → M.accessories.get? id = some a
  segments : ∀ t g, L.segments.get? t = some g →
    ∃ routes, M.segments.get? t = some { g with routes := routes }
  routes : ∀ r x, L.routes.get? r = some x → M.routes.get? r = some x

theorem Keeps.of_same (hs : M.sensors = L.sensors) (ha : M.accessories = L.accessories)
    (hg : M.segments = L.segments) (hr : M.routes = L.routes) : L.Keeps M where
  sensors _ x hx := ⟨x.owner, hs ▸ hx⟩
  accessories _ _ h := ha ▸ h
  segments _ g h := ⟨g.routes, hg ▸ h⟩
  routes _ _ h := hr ▸ h

theorem Keeps.refl (L : Layout) : L.Keeps L := .of_same rfl rfl rfl rfl

theorem Keeps.trans (h : L.Keeps M) (h' : M.Keeps N) : L.Keeps N where
  sensors s x hx := by
    obtain ⟨owner, hM⟩ := h.sensors s x hx
    obtain ⟨owner', hN⟩ := h'.sensors s _ hM
    exact ⟨owner', hN⟩
  accessories id a ha := h'.accessories id a (h.accessories id a ha)
  segments t g hg := by
    obtain ⟨routes, hM⟩ := h.segments t g hg
    obtain ⟨routes', hN⟩ := h'.segments t _ hM
    exact ⟨routes', hN⟩
  routes r x hx := h'.routes r x (h.routes r x hx)

/-- The configurations are kept, and the stamps of routes as well. -/
theorem Keeps.stored (h : L.Keeps M) (hkind : key.kind ≠ .loco) (hf : L.stored key = some f) :
    M.stored key = some f := by
  unfold Layout.stored at hf ⊢
  split
  next hk =>
    rw [hk] at hf
    obtain ⟨x, hx, rfl⟩ := Option.map_eq_some_iff.1 hf
    obtain ⟨owner, hM⟩ := h.sensors _ x hx
    rw [hM]
    rfl
  next hk =>
    rw [hk] at hf
    obtain ⟨a, ha, rfl⟩ := Option.map_eq_some_iff.1 hf
    rw [h.accessories _ a ha]
    rfl
  next hk => exact absurd hk hkind
  next hk =>
    rw [hk] at hf
    obtain ⟨g, hg, rfl⟩ := Option.map_eq_some_iff.1 hf
    obtain ⟨routes, hM⟩ := h.segments _ g hg
    rw [hM]
    rfl
  next hk =>
    rw [hk] at hf
    obtain ⟨x, hx, rfl⟩ := Option.map_eq_some_iff.1 hf
    rw [h.routes _ x hx]
    rfl

/-! ## Adding one stored object -/

/-- Adding a stored object fails where it cannot be read, and otherwise is adding an
object of its kind. -/
theorem addStored_cases {Q : Except LayoutError Unit × Layout → Prop}
    (herror : ∀ e, Q (.error e, L))
    (hsensor : ∀ c, key.kind = .sensor → SensorConfig.ofFields ⟨key.number⟩ f = .ok c →
      Q (L.addSensor c))
    (haccessory : ∀ c, key.kind = .accessory → AccessoryConfig.ofFields ⟨key.number⟩ f = .ok c →
      Q (L.addAccessory c))
    (hloco : ∀ x, key.kind = .loco → Loco.ofFields ⟨key.number⟩ f = .ok x → Q (.ok (), L.addLoco x))
    (hsegment : ∀ c, key.kind = .segment → SegmentConfig.ofFields ⟨key.number⟩ f = .ok c →
      Q (L.addSegment c))
    (hroute : ∀ r, key.kind = .route → Route.ofFields ⟨key.number⟩ f = .ok r →
      Q (L.addStampedRoute r)) : Q (L.addStored key f) := by
  have hread : ∀ {α : Type} (read : Except LayoutError α)
      {add : α → Layout → Except LayoutError Unit × Layout},
      (∀ a, read = .ok a → Q (add a L)) → Q (L.addRead read add) := by
    intro α read add hadd
    cases read with
    | ok a => exact hadd a rfl
    | error e => exact herror e
  unfold addStored
  split
  next hk => exact hread _ fun c => hsensor c hk
  next hk => exact hread _ fun c => haccessory c hk
  next hk => exact hread _ fun x => hloco x hk
  next hk => exact hread _ fun c => hsegment c hk
  next hk => exact hread _ fun r => hroute r hk

/-- What is registered under a new key replaces nothing. -/
theorem get?_insert_of_new {κ α : Type} [Ord κ] [Std.TransOrd κ] [Std.LawfulEqOrd κ]
    [DecidableEq κ] {r : Registry κ α} {i j : κ} {a b : α} (hnew : r.get? i = none)
    (hj : r.get? j = some b) : (r.insert i a).get? j = some b := by
  have hne : j ≠ i := by
    rintro rfl
    cases hnew.symm.trans hj
  rw [Registry.get?_insert_of_ne _ hne, hj]

theorem keeps_addSensor (c : SensorConfig) : L.Keeps (L.addSensor c).2 := by
  unfold addSensor
  split
  next => exact .refl L
  next hthere =>
    have hnew := get?_eq_none_of_contains hthere
    exact { Keeps.refl L with sensors := fun s x hx => ⟨x.owner, get?_insert_of_new hnew hx⟩ }

theorem keeps_addAccessory (c : AccessoryConfig) : L.Keeps (L.addAccessory c).2 := by
  unfold addAccessory
  split
  next => exact .refl L
  next hthere =>
    have hnew := get?_eq_none_of_contains hthere
    exact { Keeps.refl L with accessories := fun id a ha => get?_insert_of_new hnew ha }

theorem keeps_addSegment (hcalm : L.reaction = none) (c : SegmentConfig) :
    L.Keeps (L.addSegment c).2 := by
  have hgives := givesAll (L := L) c.id c.sensors
  unfold addSegment
  split
  next => exact .refl L
  split
  next => exact .refl L
  next hthere =>
    have hnew := get?_eq_none_of_contains hthere
    generalize L.attachAll c.id c.sensors = result at hgives
    cases hgives with
    | nothing e hids => exact .refl L
    | @all M hids hgiven =>
      have hM : M.reaction = none := by
        rw [hgiven.rest]
        exact hcalm
      -- The sensors that the segment lists get an owner, and nothing else was there before.
      have hsensors : ∀ s x, L.sensors.get? s = some x →
          ∃ owner, M.sensors.get? s = some { x with owner := owner } := by
        intro s x hx
        rw [hgiven.sensors, hx, Option.map_some]
        split
        · exact ⟨_, rfl⟩
        · exact ⟨x.owner, rfl⟩
      dsimp only
      rw [notifyAll_of_calm hM, hgiven.rest]
      exact { Keeps.refl L with
        sensors := hsensors
        segments := fun t g hg => ⟨g.routes, get?_insert_of_new hnew hg⟩ }

theorem keeps_addStampedRoute (r : Route) : L.Keeps (L.addStampedRoute r).2 := by
  by_cases hthere : L.routes.contains r.config.id
  · rw [addStampedRoute, addRoute, if_pos hthere]
    exact .refl L
  cases hrefs : L.missingReference r.config with
  | some key =>
    rw [addStampedRoute, addRoute, if_neg hthere, hrefs]
    exact .refl L
  | none =>
    have hnew := get?_eq_none_of_contains hthere
    obtain ⟨segments, hadded, hsegments⟩ := addStampedRoute_of_referenced hnew hrefs
    rw [hadded]
    refine { Keeps.refl L with
      segments := fun t g hg => ?_
      routes := fun r' x hx => get?_insert_of_new hnew hx }
    show ∃ routes, segments.get? t = some { g with routes := routes }
    rw [hsegments, hg, Option.map_some]
    split
    · obtain ⟨routes, hnoted⟩ := g.addRoute_frame r.config.id r.config.priority
      exact ⟨routes, congrArg some hnoted⟩
    · exact ⟨g.routes, rfl⟩

theorem keeps_addStored (hcalm : L.reaction = none) (key : EntityKey) (f : Fields) :
    L.Keeps (L.addStored key f).2 := by
  apply addStored_cases (Q := fun result => L.Keeps result.2)
  · exact fun _ => .refl L
  · exact fun c _ _ => keeps_addSensor c
  · exact fun c _ _ => keeps_addAccessory c
  · exact fun _ _ _ => .of_same rfl rfl rfl rfl
  · exact fun c _ _ => keeps_addSegment hcalm c
  · exact fun r _ _ => keeps_addStampedRoute r

/-- A stored object whose id is taken is not added, unless it is a loco. -/
theorem addStored_of_taken (hkind : key.kind ≠ .loco) (htaken : (L.stored key).isSome)
    (f : Fields) : ∃ e, (L.addStored key f).1 = .error e := by
  unfold stored at htaken
  apply addStored_cases (Q := fun result => ∃ e, result.1 = .error e)
  · exact fun e => ⟨e, rfl⟩
  · intro c hk hc
    rw [hk, ← SensorConfig.id_of_ofFields hc, Option.isSome_map] at htaken
    rw [addSensor, Registry.contains, if_pos htaken]
    exact ⟨_, rfl⟩
  · intro c hk hc
    rw [hk, ← AccessoryConfig.id_of_ofFields hc, Option.isSome_map] at htaken
    rw [addAccessory, Registry.contains, if_pos htaken]
    exact ⟨_, rfl⟩
  · exact fun _ hk _ => absurd hk hkind
  · intro c hk hc
    rw [hk, ← SegmentConfig.id_of_ofFields hc, Option.isSome_map] at htaken
    rw [addSegment]
    split
    · exact ⟨_, rfl⟩
    · rw [Registry.contains, if_pos htaken]
      exact ⟨_, rfl⟩
  · intro r hk hr
    rw [hk, ← Route.id_of_ofFields hr, Option.isSome_map] at htaken
    rw [addStampedRoute, addRoute, Registry.contains, if_pos htaken]
    exact ⟨_, rfl⟩

/-- Objects of other kinds have nothing to do with locos. -/
theorem locos_addStored (hcalm : L.reaction = none) (hkind : key.kind ≠ .loco) (f : Fields) :
    (L.addStored key f).2.locos = L.locos := by
  apply addStored_cases (Q := fun result => result.2.locos = L.locos)
  · exact fun _ => rfl
  · intro c _ _
    unfold addSensor
    split <;> rfl
  · intro c _ _
    unfold addAccessory
    split <;> rfl
  · exact fun _ hk _ => absurd hk hkind
  · intro c _ _
    obtain ⟨sensors, segments, notices, hadded⟩ := addSegment_eq hcalm c
    rw [hadded]
  · intro r _ _
    have hadded := (unheard_addRoute (L := L) r.config).locos
    rw [addStampedRoute]
    generalize L.addRoute r.config = result at hadded
    obtain ⟨_ | _, M⟩ := result <;> exact hadded

/-! ## Loading -/

section Loading

variable {σ : Type} [Store σ] {s : σ} {P : Layout → Prop}

/-- Loading the objects of a kind succeeds only if each of them could be added when its
turn came. -/
theorem exists_added_of_loadKeys (hadd : ∀ key f M, P M → P (M.addStored key f).2) (hL : P L)
    {keys : List EntityKey} (hok : (L.loadKeys s k keys).1 = .ok ()) (hkey : key ∈ keys)
    (hload : Store.load key s = .ok (some f)) :
    ∃ M, P M ∧ (M.addStored ⟨k, key.number⟩ f).1 = .ok () := by
  induction keys generalizing L with
  | nil => cases hkey
  | cons first keys ih =>
    rw [loadKeys] at hok
    cases hfirst : Store.load first s with
    | error e =>
      rw [hfirst] at hok
      cases hok
    | ok stored =>
      rw [hfirst] at hok
      rcases List.mem_cons.1 hkey with rfl | hlater
      · -- This is the object in question.
        obtain rfl : stored = some f := Except.ok.inj (hfirst.symm.trans hload)
        dsimp only at hok
        refine ⟨L, hL, ?_⟩
        generalize L.addStored ⟨k, key.number⟩ f = added at hok ⊢
        obtain ⟨_ | _, M⟩ := added
        · cases hok
        · rfl
      · cases stored with
        | none => exact ih hL hok hlater
        | some f' =>
          have hnext : P (L.addStored ⟨k, first.number⟩ f').2 := hadd _ f' L hL
          dsimp only at hok
          generalize L.addStored ⟨k, first.number⟩ f' = added at hok hnext
          obtain ⟨_ | _, M⟩ := added
          · cases hok
          · exact ih hnext hok hlater

theorem exists_added_of_loadKinds (hadd : ∀ key f M, P M → P (M.addStored key f).2) (hL : P L)
    {kinds : List Kind} (hok : (L.loadKinds s kinds).1 = .ok ()) (hk : k ∈ kinds)
    (hfinds : Finds s k key f) : ∃ M, P M ∧ (M.addStored ⟨k, key.number⟩ f).1 = .ok () := by
  obtain ⟨⟨keys, hkeys, hkey⟩, hload⟩ := hfinds
  induction kinds generalizing L with
  | nil => cases hk
  | cons first kinds ih =>
    rw [loadKinds] at hok
    cases hfirst : Store.keys first s with
    | error e =>
      rw [hfirst] at hok
      cases hok
    | ok listed =>
      rw [hfirst] at hok
      have hnext : P (L.loadKeys s first listed).2 :=
        loadKeys_keeps (fun _ _ f' _ M hM => hadd _ f' M hM) hL
      have hdone : _ → key ∈ listed → _ → _ :=
        exists_added_of_loadKeys (s := s) (k := first) (f := f) hadd hL
      dsimp only at hok
      generalize L.loadKeys s first listed = loaded at hok hnext hdone
      obtain ⟨_ | _, M⟩ := loaded
      · cases hok
      · rcases List.mem_cons.1 hk with rfl | hlater
        · obtain rfl := Except.ok.inj (hfirst.symm.trans hkeys)
          exact hdone rfl hkey hload
        · exact ih hnext hok hlater

/-- Loading ends like the loading of the objects ends, and only counts uses on. -/
theorem load_eq_loadKinds (s : σ) : (L.load s).1 = (L.loadKinds s Enumeration.all).1 ∧
    ∃ count, (L.load s).2 = { (L.loadKinds s Enumeration.all).2 with useCounter := count } := by
  cases hkinds : L.loadKinds s Enumeration.all with
  | mk result M =>
    cases result with
    | ok _ =>
      rw [load_of_ok hkinds]
      exact ⟨rfl, _, rfl⟩
    | error e =>
      rw [load_of_error hkinds]
      exact ⟨rfl, M.useCounter, rfl⟩

/-- Adding a stored object keeps what was kept so far. -/
theorem Keeps.addStored (h : M.Sound ∧ L.Keeps M) (key : EntityKey) (f : Fields) :
    (M.addStored key f).2.Sound ∧ L.Keeps (M.addStored key f).2 := by
  obtain ⟨hM, hkeeps⟩ := h
  exact ⟨hM.addStored key f, hkeeps.trans (keeps_addStored hM.calm key f)⟩

theorem keeps_load (hL : L.Sound) (s : σ) : L.Keeps (L.load s).2 := by
  have hkeeps : (L.load s).2.Sound ∧ L.Keeps (L.load s).2 := by
    refine load_keeps (P := fun M => M.Sound ∧ L.Keeps M)
      (fun key f M hM => Keeps.addStored hM key f) ?_ s ⟨hL, .refl L⟩
    rintro n M ⟨hM, hkeeps⟩
    exact ⟨⟨hM.calm, hM.segments⟩, hkeeps.trans (.of_same rfl rfl rfl rfl)⟩
  exact hkeeps.2

/-- A stored object whose id is taken ends the loading, unless it is a loco. -/
theorem load_of_taken (hL : L.Sound) (hkind : k ≠ .loco) (hfinds : Finds s k key f)
    (htaken : (L.stored ⟨k, key.number⟩).isSome) : ∃ e, (L.load s).1 = .error e := by
  cases hload : (L.load s).1 with
  | error e => exact ⟨e, rfl⟩
  | ok _ =>
    -- Then it was added to a layout in which the id was taken still.
    rw [(load_eq_loadKinds s).1] at hload
    obtain ⟨M, ⟨-, hkeeps⟩, hadded⟩ :=
      exists_added_of_loadKinds (P := fun M => M.Sound ∧ L.Keeps M)
        (fun key f M hM => Keeps.addStored hM key f) ⟨hL, .refl L⟩ hload (Enumeration.mem_all k)
        hfinds
    obtain ⟨f', hf'⟩ := Option.isSome_iff_exists.1 htaken
    have hstill : (M.stored ⟨k, key.number⟩).isSome := by
      rw [hkeeps.stored hkind hf']
      rfl
    obtain ⟨e, he⟩ := addStored_of_taken hkind hstill f
    cases he.symm.trans hadded

/-! ## Locos -/

/-- Every loco is still there, unless one that is stored under its number took its
place. -/
def LocosFrom (s : σ) (L M : Layout) : Prop :=
  ∀ l x, L.locos.get? l = some x → ∃ y, M.locos.get? l = some y ∧
    (y = x ∨ ∃ key f, Finds s .loco key f ∧ key.number = l.number)

theorem LocosFrom.addStored (h : LocosFrom s L M) (hcalm : M.reaction = none)
    (hfinds : Finds s k key f) : LocosFrom s L (M.addStored ⟨k, key.number⟩ f).2 := by
  intro l x hx
  obtain ⟨y, hy, hfrom⟩ := h l x hx
  by_cases hk : k = .loco
  · subst hk
    show ∃ y, (M.addRead (Loco.ofFields ⟨key.number⟩ f)
      fun x L => (.ok (), L.addLoco x)).2.locos.get? l = some y ∧ _
    cases hread : Loco.ofFields ⟨key.number⟩ f with
    | error e => exact ⟨y, hy, hfrom⟩
    | ok c =>
      have hid := Loco.id_of_ofFields hread
      show ∃ y, (M.locos.insert c.id c).get? l = some y ∧ _
      rw [Registry.get?_insert]
      by_cases hl : l = c.id
      · rw [if_pos hl]
        exact ⟨c, rfl, .inr ⟨key, f, hfinds, by rw [hl, hid]⟩⟩
      · rw [if_neg hl]
        exact ⟨y, hy, hfrom⟩
  · rw [locos_addStored hcalm hk]
    exact ⟨y, hy, hfrom⟩

theorem locosFrom_load (hL : L.Sound) (s : σ) : LocosFrom s L (L.load s).2 := by
  have hfrom : LocosFrom s L (L.loadKinds s Enumeration.all).2 := by
    refine (loadKinds_keeps (P := fun M => M.Sound ∧ LocosFrom s L M) ?_ _ ⟨hL, ?_⟩).2
    · rintro k key f hfinds M ⟨hM, h⟩
      exact ⟨hM.addStored _ f, h.addStored hM.calm hfinds⟩
    · exact fun l x hx => ⟨x, hx, .inl rfl⟩
  obtain ⟨-, count, hload⟩ := load_eq_loadKinds (L := L) s
  rw [hload]
  exact hfrom

/-! ## The exception, exactly -/

/-- Loading is refused where an id is taken, and changes no configuration. -/
structure NeverOverwrites (L : Layout) (s : σ) : Prop where
  refused : ∀ k key f, Finds s k key f → (L.stored ⟨k, key.number⟩).isSome →
    ∃ e, (L.load s).1 = .error e
  kept : ∀ key f, L.stored key = some f → (L.load s).2.stored key = some f

/-- A loco was replaced: loading did not notice and went on to the end, or it broke off
later. -/
inductive ReplacesLoco (L : Layout) (s : σ) : Prop where
  | succeeds {key : EntityKey} {f : Fields} {x : Loco} (hok : (L.load s).1 = .ok ())
      (hfinds : Finds s .loco key f) (hx : L.locos.get? ⟨key.number⟩ = some x)
  | breaksOff {l : LocoId} {x y : Loco} {e : StoreError} (herror : (L.load s).1 = .error e)
      (hx : L.locos.get? l = some x) (hy : (L.load s).2.locos.get? l = some y) (hne : y ≠ x)

theorem stored_loco (L : Layout) (l : LocoId) :
    L.stored l.key = (L.locos.get? l).map Loco.toFields := rfl

theorem neverOverwrites_iff (hL : L.Reachable) (s : σ) : L.NeverOverwrites s ↔ ¬ L.ReplacesLoco s := by
  constructor
  · intro hapart hreplaces
    cases hreplaces with
    | @succeeds key f x hok hfinds hx =>
      have htaken : (L.stored ⟨.loco, key.number⟩).isSome := by
        show (L.stored (Ident.key ⟨key.number⟩ : EntityKey)).isSome
        rw [stored_loco, hx]
        rfl
      obtain ⟨e, he⟩ := hapart.refused .loco key f hfinds htaken
      cases hok.symm.trans he
    | @breaksOff l x y e herror hx hy hne =>
      -- The stored forms are equal, and so are the ids.
      obtain ⟨order, horder⟩ := hL.addedInOrder
      obtain ⟨order', horder'⟩ := (hL.load s).addedInOrder
      have hkept := hapart.kept l.key x.toFields (by rw [stored_loco, hx]; rfl)
      rw [stored_loco, hy, Option.map_some] at hkept
      have hread := x.ofFields_toFields
      rw [horder.named.locos l x hx, ← horder'.named.locos l y hy, ← Option.some.inj hkept,
        y.ofFields_toFields] at hread
      exact hne (Except.ok.inj hread)
  · intro hnot
    refine ⟨fun k key f hfinds htaken => ?_, fun key f hf => ?_⟩
    · by_cases hk : k = .loco
      · subst hk
        cases hload : (L.load s).1 with
        | error e => exact ⟨e, rfl⟩
        | ok _ =>
          obtain ⟨x, hx⟩ := Option.isSome_iff_exists.1 (Option.isSome_map.symm.trans htaken)
          exact absurd (.succeeds hload hfinds hx) hnot
      · exact load_of_taken hL.sound hk hfinds htaken
    · by_cases hk : key.kind = .loco
      · obtain ⟨l, rfl⟩ := key.exists_ident hk
        obtain ⟨x, hx, rfl⟩ := Option.map_eq_some_iff.1 hf
        obtain ⟨y, hy, hfrom⟩ := locosFrom_load hL.sound s l x hx
        have hsame : y = x := by
          by_contra hne
          obtain ⟨key, f, hfinds, hkey⟩ := hfrom.resolve_left hne
          cases hload : (L.load s).1 with
          | error e => exact hnot (.breaksOff hload hx hy hne)
          | ok _ =>
            have hthere : L.locos.get? ⟨key.number⟩ = some x := by rw [hkey]; exact hx
            exact hnot (.succeeds hload hfinds hthere)
        rw [stored_loco, hy, hsame]
        rfl
      · exact (keeps_load hL.sound s).stored hk hf

/-- **Loading** keeps everything but locos, and is refused where an id of another kind is
taken. For locos, too, it is refused and keeps the configurations, except in two cases:
a registered loco is stored and loading succeeds, or loading breaks off after it has
replaced a loco by another. -/
theorem load_overwrites_only_locos (hL : L.Reachable) (s : σ) :
    L.Keeps (L.load s).2 ∧
      (∀ k key f, k ≠ .loco → Finds s k key f → (L.stored ⟨k, key.number⟩).isSome →
        ∃ e, (L.load s).1 = .error e) ∧
      (L.NeverOverwrites s ↔ ¬ L.ReplacesLoco s) :=
  ⟨keeps_load hL.sound s, fun _ _ _ => load_of_taken hL.sound, neverOverwrites_iff hL s⟩

end Loading

/-- Loco 7 is registered, and another one is stored under its number. Loading replaces
it and does not fail. -/
theorem not_neverOverwrites_of_stored_loco :
    let L := empty.run [.addLoco { id := ⟨7⟩, name := "A" }]
    let s : MemoryStore := { entities := .ofList [(⟨.loco, 7⟩, .ofList [("name", "B")])] }
    ¬ L.NeverOverwrites s := by
  intro L s hapart
  have hstored : (L.stored ⟨.loco, 7⟩).isSome := by decide
  obtain ⟨e, he⟩ := hapart.refused .loco ⟨.loco, 7⟩ (.ofList [("name", "B")])
    ⟨⟨[⟨.loco, 7⟩], by decide, by decide⟩, by decide⟩ hstored
  have hload : (L.load s).1 = .ok () := by decide
  cases hload.symm.trans he

/-- A loco and a segment are registered and stored. Loading replaces the loco and then
fails at the segment, which is kept. -/
theorem load_overwrites_only_locos_at_clash :
    let segment (name : String) : Call := .addSegment { id := ⟨1⟩, name := name, length := 1 }
    let L := empty.run [.addLoco { id := ⟨7⟩, name := "A" }, segment "T1"]
    let s : MemoryStore := { entities := .ofList [(⟨.loco, 7⟩, .ofList [("name", "B")]),
      (⟨.segment, 1⟩, .ofList [("name", "T2"), ("length", "1")])] }
    L.Reachable ∧ L.Keeps (L.load s).2 ∧ (∃ e, (L.load s).1 = .error e) ∧ ¬ L.NeverOverwrites s := by
  intro segment L s
  have hL : L.Reachable := (Reachable.start .doNotCare .silent).run _
  obtain ⟨hkeeps, hrefused, hiff⟩ := load_overwrites_only_locos hL s
  obtain ⟨e, he⟩ := hrefused .segment ⟨.segment, 1⟩ (.ofList [("name", "T2"), ("length", "1")])
    (by decide) ⟨⟨[⟨.segment, 1⟩], by decide, by decide⟩, by decide⟩ (by decide)
  refine ⟨hL, hkeeps, ⟨e, he⟩, fun hapart => hiff.1 hapart ?_⟩
  exact .breaksOff (l := ⟨7⟩) (x := { id := ⟨7⟩, name := "A" }) (y := { id := ⟨7⟩, name := "B" })
    he (by decide) (by decide) (by decide)

end Layout
end Interlocking
