import TicketBox.JsonText

/-! # The hash of a request body

    `hashRequest` of the idempotency service and `hashBody` of the interceptor
    hash the text of the normalised body.  The normaliser sorts the keys and takes
    `null` for `undefined`, so that it drops a property that is `null`; and it
    assigns every property of the copy, which for the key `__proto__` sets the
    prototype and leaves no property.  `hash_identifies_iff` says which pairs of
    bodies their texts tell apart. -/

namespace RequestHash

open JsonText

/-! ## Values -/

/-- What a JavaScript value without functions has at its leaves. -/
inductive JsLeaf where
  | undefined
  | null
  | bool (b : Bool)
  | num (x : Number)
  | str (s : JsString)
  deriving DecidableEq

/-- A value of the language, as far as a body holds it. -/
abbrev Value := Json JsLeaf

/-- `undefined`. -/
def undefined : Value := .leaf .undefined

/-- The value is `undefined`. -/
def Value.isUndefined : Value → Bool
  | .leaf .undefined => true
  | _ => false

/-- What `JSON.parse` returns: nothing undefined, and no key twice. -/
structure Parsed (v : Value) : Prop where
  defined : v.fold (fun a => a ≠ .undefined) (fun items => ∀ p ∈ items, p) fun fields =>
    ∀ f ∈ fields, f.2
  keyed : v.Keyed

/-- A request body: an object. -/
structure Body where
  fields : List (JsString × Value)
  parsed : Parsed (.obj fields)

/-- The body as a value. -/
def Body.value (body : Body) : Value := .obj body.fields

/-! ## `JSON.stringify` -/

/-- The text's leaf for a value's; `undefined` has none, an infinite number is
    `null`. -/
def JsLeaf.text : JsLeaf → Option TextLeaf
  | .undefined => none
  | .null => some .null
  | .bool b => some (.bool b)
  | .num .zero => some (.num none)
  | .num (.decimal d) => some (.num (some d))
  | .num (.infinite _) => some .null
  | .str s => some (.str s)

/-- The tree `JSON.stringify` writes: an item that is `undefined` is `null`, a
    property that is `undefined` is left out. -/
def written : Value → Option (Json TextLeaf) :=
  Json.fold (fun a => a.text.map .leaf)
    (fun items => some (.arr (items.map fun t => t.getD (.leaf .null))))
    (fun fields => some (.obj (propertyOrder (fields.filterMap fun f => f.2.map fun t => (f.1, t)))))

/-- `JSON.stringify`; none where it answers `undefined`. -/
def stringify (v : Value) : Option JsString := (written v).map Json.print

/-! ## `normalizePayload` -/

/-- The field name that an assignment does not make a field. -/
def protoKey : JsString := ascii "__proto__"

/-- `acc[key] = normalized`, on an object without the key; the setter behind
    `__proto__` makes no property. -/
def assign (acc : List (JsString × Value)) (f : JsString × Value) : List (JsString × Value) :=
  if f.2.isUndefined then acc
  else if f.1 = protoKey then acc
  else acc ++ [f]

/-- `normalizePayload` of the service, `normalize` of the interceptor.  The values
    are normalised before the keys are sorted, which is the same. -/
def normalizePayload : Value → Value :=
  Json.fold
    (fun
      | .null => undefined
      | .undefined => undefined
      | a => .leaf a)
    .arr
    (fun fields => .obj ((sortKeys fields).foldl assign []))

/-- What `hashRequest` feeds to SHA-256. -/
def hashRequest (payload : Value) : Option JsString := stringify (normalizePayload payload)

/-- What `hashBody` feeds to SHA-256. -/
def hashBody (body : Value) : Option JsString := stringify (normalizePayload body)

/-! ## Equations -/

/-- What is written of an array. -/
theorem written_arr (items : List Value) :
    written (.arr items) = some (.arr (items.map fun t => (written t).getD (.leaf .null))) := by
  rw [written, Json.fold_arr, List.map_map]
  rfl

/-- What is written of an object. -/
theorem written_obj (fields : List (JsString × Value)) :
    written (.obj fields) = some (.obj (propertyOrder
      (fields.filterMap fun f => (written f.2).map fun t => (f.1, t)))) := by
  rw [written, Json.fold_obj, List.filterMap_map]
  rfl

/-- An array is normalized item by item. -/
theorem normalizePayload_arr (items : List Value) :
    normalizePayload (.arr items) = .arr (items.map normalizePayload) :=
  Json.fold_arr _ _ _ items

/-- An object is normalized with its fields sorted. -/
theorem normalizePayload_obj (fields : List (JsString × Value)) :
    normalizePayload (.obj fields)
      = .obj ((sortKeys (fields.map fun f => (f.1, normalizePayload f.2))).foldl assign []) :=
  Json.fold_obj _ _ _ fields

/-- The properties that the loop over the keys makes. -/
def makes (f : JsString × Value) : Bool := !f.2.isUndefined && f.1 ≠ protoKey

/-- The fields that an assignment makes. -/
theorem foldl_assign (fields acc : List (JsString × Value)) :
    fields.foldl assign acc = acc ++ fields.filter makes := by
  induction fields generalizing acc with
  | nil => simp
  | cons f rest ih =>
      rw [List.foldl_cons, ih, assign, List.filter_cons]
      by_cases hundefined : f.2.isUndefined
      · simp [makes, hundefined]
      · by_cases hproto : f.1 = protoKey
        · simp [makes, hproto]
        · simp [makes, hundefined, hproto]

/-! ## What the text says -/

/-- What is left of a value: without the properties that are `null` or named
    `__proto__`, at any depth, and with `null` for an infinite number. -/
def remains : Value → Option (Json TextLeaf) :=
  Json.fold
    (fun
      | .null => none
      | a => a.text.map .leaf)
    (fun items => some (.arr (items.map fun t => t.getD (.leaf .null))))
    (fun fields => some (.obj (fields.filterMap fun f =>
      if f.1 = protoKey then none else f.2.map fun t => (f.1, t))))

/-- What remains of an array. -/
theorem remains_arr (items : List Value) :
    remains (.arr items) = some (.arr (items.map fun t => (remains t).getD (.leaf .null))) := by
  rw [remains, Json.fold_arr, List.map_map]
  rfl

/-- The properties that are left. -/
def remaining (fields : List (JsString × Value)) : List (JsString × Json TextLeaf) :=
  fields.filterMap fun f =>
    if f.1 = protoKey then none else (remains f.2).map fun t => (f.1, t)

/-- What remains of an object. -/
theorem remains_obj (fields : List (JsString × Value)) :
    remains (.obj fields) = some (.obj (remaining fields)) := by
  rw [remains, Json.fold_obj, List.filterMap_map]
  rfl

/-- The body without the fields that the hash leaves out. -/
def Body.remains (body : Body) : Json TextLeaf := .obj (remaining body.fields)

/-- The keys that are left are keys of the object. -/
theorem remaining_keys (fields : List (JsString × Value)) :
    ((remaining fields).map Prod.fst).Sublist (fields.map Prod.fst) := by
  induction fields with
  | nil => simp [remaining]
  | cons f rest ih =>
      rw [remaining, List.filterMap_cons]
      split
      · exact ih.trans (List.sublist_cons_self _ _)
      · next g hg =>
        have hkey : g.1 = f.1 := by
          split_ifs at hg
          obtain ⟨t, -, rfl⟩ := Option.map_eq_some_iff.mp hg
          rfl
        rw [List.map_cons, List.map_cons, hkey]
        exact ih.cons_cons _

/-- What remains of a field. -/
theorem mem_remaining {fields : List (JsString × Value)} {g : JsString × Json TextLeaf}
    (h : g ∈ remaining fields) : ∃ f ∈ fields, f.1 = g.1 ∧ remains f.2 = some g.2 := by
  obtain ⟨f, hf, hg⟩ := List.mem_filterMap.mp h
  split_ifs at hg
  obtain ⟨t, ht, rfl⟩ := Option.map_eq_some_iff.mp hg
  exact ⟨f, hf, rfl, ht⟩

/-- Fields stay apart. -/
theorem keyed_remains {v : Value} (hv : v.Keyed) {t : Json TextLeaf} (ht : remains v = some t) :
    t.Keyed := by
  induction v using Json.induct generalizing t with
  | leaf a =>
      cases a with
      | num x => cases x <;> cases ht <;> trivial
      | _ => cases ht <;> trivial
  | arr items ih =>
      rw [remains_arr] at ht
      cases ht
      rw [Json.keyed_arr] at hv ⊢
      intro u hu
      obtain ⟨x, hx, rfl⟩ := List.mem_map.mp hu
      cases hremains : remains x with
      | none => trivial
      | some y => exact ih x hx (hv x hx) hremains
  | obj fields ih =>
      rw [remains_obj] at ht
      cases ht
      rw [Json.keyed_obj] at hv ⊢
      refine ⟨(remaining_keys fields).nodup hv.1, fun g hg => ?_⟩
      obtain ⟨f, hf, -, hremains⟩ := mem_remaining hg
      exact ih f hf (hv.2 f hf) hremains

/-- Nothing is written of `undefined`. -/
theorem written_undefined {v : Value} (h : v.isUndefined = true) : written v = none := by
  cases v with
  | leaf a => cases a <;> first | rfl | cases h
  | arr items => cases h
  | obj fields => cases h

/-- What the text says of the properties that the loop makes. -/
theorem written_made {fields : List (JsString × Value)}
    (ih : ∀ f ∈ fields, written (normalizePayload f.2) = (remains f.2).map Json.order) :
    (((fields.map fun f => (f.1, normalizePayload f.2)).filter makes).filterMap fun f =>
        (written f.2).map fun t => (f.1, t))
      = (remaining fields).map fun f => (f.1, f.2.order) := by
  rw [List.filterMap_filter, List.filterMap_map, remaining, List.map_filterMap]
  refine List.filterMap_congr fun f hf => ?_
  by_cases hproto : f.1 = protoKey
  · simp [makes, hproto]
  · by_cases hundefined : (normalizePayload f.2).isUndefined
    · have hnone := ih f hf
      rw [written_undefined hundefined, eq_comm, Option.map_eq_none_iff] at hnone
      simp [makes, hproto, hundefined, hnone]
    · simp [makes, hproto, hundefined, ih f hf, Function.comp_def]

/-- **The text of the normalised value** is what is left, in written order. -/
theorem written_normalizePayload {v : Value} (hv : v.Keyed) :
    written (normalizePayload v) = (remains v).map Json.order := by
  induction v using Json.induct with
  | leaf a =>
      cases a with
      | num x => cases x <;> rfl
      | _ => rfl
  | arr items ih =>
      rw [Json.keyed_arr] at hv
      rw [normalizePayload_arr, written_arr, remains_arr, Option.map_some, Json.order_arr,
        List.map_map, List.map_map]
      congr 2
      refine List.map_congr_left fun t ht => ?_
      simp only [Function.comp_apply, ih t ht (hv t ht)]
      cases remains t with
      | none => rfl
      | some u => rfl
  | obj fields ih =>
      rw [Json.keyed_obj] at hv
      have hmade := written_made fun f hf => ih f hf (hv.2 f hf)
      have hsorted := (sortKeys_perm (fields.map fun f => (f.1, normalizePayload f.2))).filter makes
      rw [normalizePayload_obj, foldl_assign, List.nil_append, written_obj, remains_obj,
        Option.map_some, Json.order_obj]
      congr 2
      -- both lists have the same properties, in the order of their keys
      have hleft := hsorted.filterMap fun f : JsString × Value =>
        (written f.2).map fun t => (f.1, t)
      rw [hmade] at hleft
      have hperm := (propertyOrder_perm _).trans (hleft.trans (ordered_perm _).symm)
      have hkeys : (((remaining fields).map fun f => (f.1, f.2.order)).map Prod.fst).Nodup := by
        rw [List.map_map]
        exact (remaining_keys fields).nodup hv.1
      refine eq_of_keyBefore hperm ?_ (propertyOrder_pairwise ?_) (ordered_pairwise _)
      · refine ((hperm.map Prod.fst).nodup_iff).mpr ?_
        exact (((ordered_perm _).map Prod.fst).nodup_iff).mpr hkeys
      · refine ((sortKeys_pairwise _).filter makes).filterMap _ fun f g hle x hx y hy => ?_
        obtain ⟨t, -, rfl⟩ := Option.map_eq_some_iff.mp hx
        obtain ⟨u, -, rfl⟩ := Option.map_eq_some_iff.mp hy
        exact hle

/-! ## Which bodies the text tells apart -/

/-- Related lists have equal images. -/
theorem map_eq_of_forall₂ {α γ : Type} {R : α → α → Prop} {g : α → γ} {as bs : List α}
    (h : List.Forall₂ R as bs) (hg : ∀ a ∈ as, ∀ b, R a b → g a = g b) : as.map g = bs.map g := by
  induction h with
  | nil => rfl
  | cons hab _ ih =>
      rw [List.map_cons, List.map_cons, hg _ List.mem_cons_self _ hab,
        ih fun a ha => hg a (List.mem_cons_of_mem _ ha)]

/-- The properties that are left, read off what is left of each value. -/
theorem remaining_order (fields : List (JsString × Value)) :
    ((remaining fields).map fun f => (f.1, f.2.order))
      = (fields.map fun f => (f.1, (remains f.2).map Json.order)).filterMap fun f =>
          if f.1 = protoKey then none else f.2.map fun t => (f.1, t) := by
  rw [remaining, List.map_filterMap, List.filterMap_map]
  refine List.filterMap_congr fun f _ => ?_
  by_cases hproto : f.1 = protoKey
  · simp [hproto]
  · simp [hproto, Function.comp_def]

/-- What the text says depends on the body up to the order of its keys only. -/
theorem written_same {v w : Value} (hv : v.Keyed) (h : v.Same w) :
    (remains v).map Json.order = (remains w).map Json.order := by
  induction v using Json.induct generalizing w with
  | leaf a =>
      rw [Json.same_leaf] at h
      rw [h]
  | arr items ih =>
      obtain ⟨us, rfl, hsame⟩ := Json.same_arr.mp h
      rw [Json.keyed_arr] at hv
      rw [remains_arr, remains_arr, Option.map_some, Option.map_some, Json.order_arr,
        Json.order_arr, List.map_map, List.map_map]
      congr 2
      refine map_eq_of_forall₂ hsame fun t ht u htu => ?_
      have hvalue := ih t ht (hv t ht) htu
      have horder : ∀ x : Option (Json TextLeaf),
          (x.getD (.leaf .null)).order = (x.map Json.order).getD (.leaf .null) := by
        intro x
        cases x with
        | none => rfl
        | some y => rfl
      simp only [Function.comp_apply, horder, hvalue]
  | obj fields ih =>
      obtain ⟨gs, rfl, hlen, hall⟩ := Json.same_obj.mp h
      rw [Json.keyed_obj] at hv
      have hperm := Json.perm_of_pairs (fun v => (remains v).map Json.order) hv.1 hlen fun f hf => by
        obtain ⟨g, hg, hkey, hsame⟩ := hall f hf
        exact ⟨g, hg, hkey, ih f hf (hv.2 f hf) hsame⟩
      have hkeys : (((remaining fields).map fun f => (f.1, f.2.order)).map Prod.fst).Nodup := by
        rw [List.map_map]
        exact (remaining_keys fields).nodup hv.1
      rw [remains_obj, remains_obj, Option.map_some, Option.map_some, Json.order_obj,
        Json.order_obj, (ordered_eq_iff hkeys).mpr]
      rw [remaining_order, remaining_order]
      exact hperm.filterMap _

/-- What is hashed is the text of what remains, in order. -/
theorem hashRequest_eq {v : Value} (hv : v.Keyed) :
    hashRequest v = ((remains v).map Json.order).map Json.print := by
  rw [hashRequest, stringify, written_normalizePayload hv]

/-- Two bodies have one text exactly when the same is left of them. -/
theorem hashRequest_eq_iff (a b : Body) :
    hashRequest a.value = hashRequest b.value ↔ a.remains.Same b.remains := by
  have ha : a.value.Keyed := a.parsed.keyed
  have hb : b.value.Keyed := b.parsed.keyed
  have hka : a.remains.Keyed := keyed_remains ha (remains_obj _)
  have hkb : b.remains.Keyed := keyed_remains hb (remains_obj _)
  rw [← Json.order_eq_iff hka hkb, hashRequest_eq ha, hashRequest_eq hb]
  have hra : remains a.value = some a.remains := remains_obj _
  have hrb : remains b.value = some b.remains := remains_obj _
  rw [hra, hrb, Option.map_some, Option.map_some, Option.map_some, Option.map_some,
    Option.some.injEq, print_injective.eq_iff]

/-- **What the hash identifies**: a pair of bodies is told apart exactly by what
    is equal up to the order of keys, unless they differ only in properties that
    are `null` or named `__proto__` and in numbers too large. -/
theorem hash_identifies_iff (a b : Body) :
    ((hashRequest a.value = hashRequest b.value ↔ a.value.Same b.value) ∧
      (hashBody a.value = hashBody b.value ↔ a.value.Same b.value)) ↔
      (a.remains.Same b.remains → a.value.Same b.value) := by
  have htext := hashRequest_eq_iff a b
  have hsame : a.value.Same b.value → a.remains.Same b.remains := by
    intro h
    have ha : a.value.Keyed := a.parsed.keyed
    have hb : b.value.Keyed := b.parsed.keyed
    rw [← htext, hashRequest_eq ha, hashRequest_eq hb, written_same ha h]
  have hbody : hashBody a.value = hashBody b.value ↔ a.remains.Same b.remains := htext
  rw [htext, hbody, and_self]
  constructor
  · intro h
    exact h.mp
  · intro h
    exact ⟨h, hsame⟩

/-! ### Bodies with one text -/

/-- A body with no fields. -/
def emptyBody : Body where
  fields := []
  parsed := ⟨fun f hf => (by cases hf), Json.keyed_obj.mpr ⟨List.nodup_nil, fun f hf => (by cases hf)⟩⟩

/-- An object with one property. -/
def single (key : JsString) (a : JsLeaf) (ha : a ≠ .undefined) : Body where
  fields := [(key, .leaf a)]
  parsed :=
    ⟨fun f hf => (by
        cases List.mem_singleton.mp hf
        exact ha),
      Json.keyed_obj.mpr ⟨List.nodup_singleton _, fun f hf => (by
        cases List.mem_singleton.mp hf
        trivial)⟩⟩

/-- A property that is `null`, and one named `__proto__`, are hashed like none. -/
theorem null_hashed_like_none :
    (hashRequest emptyBody.value = hashRequest (single (ascii "a") .null (by decide)).value ∧
        ¬ emptyBody.value.Same (single (ascii "a") .null (by decide)).value) ∧
      hashRequest emptyBody.value
          = hashRequest (single protoKey (.bool true) (by decide)).value ∧
        ¬ emptyBody.value.Same (single protoKey (.bool true) (by decide)).value := by
  have hdiffer : ∀ key a ha, ¬ emptyBody.value.Same (single key a ha).value := by
    intro key a ha h
    obtain ⟨gs, hgs, hlen, -⟩ := Json.same_obj.mp h
    cases hgs
    cases hlen
  have hempty : (Json.obj [] : Json TextLeaf).Same (.obj []) :=
    Json.same_obj.mpr ⟨[], rfl, rfl, fun f hf => (by cases hf)⟩
  refine ⟨⟨(hashRequest_eq_iff _ _).mpr hempty, hdiffer _ _ _⟩,
    (hashRequest_eq_iff _ _).mpr hempty, hdiffer _ _ _⟩

end RequestHash
