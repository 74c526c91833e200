import DistrictAtlas.Proofs.Settings.Overlaid

/-!
# Keys that mean nothing

Beside the keys of the six parts settings have no others: a further one is complained about by its
name. Inside the parts that are mappings themselves it is otherwise. There the known keys have to be,
but a further one is passed over, and without it the settings come out the same.
-/

namespace DistrictAtlas

/-- A key is the same as a text only if it is this text. -/
theorem Scalar.beq_text_iff {key : Scalar} {name : String} :
    (key == .text name) = true ↔ key = .text name := by
  constructor
  · intro h
    have hform : key.keyForm = .text name := of_decide_eq_true h
    cases key with
    | text s => exact hform
    | real x =>
      rw [keyForm] at hform
      cases hwhole : x.whole? with
      | none =>
        rw [hwhole] at hform
        cases hform
      | some n =>
        rw [hwhole] at hform
        cases hform
    | _ => cases hform
  · rintro rfl
    exact BEq.rfl

/-- A key is among texts when it is one of them. -/
theorem Scalar.contains_texts_iff {key : Scalar} {names : List String} :
    (names.map text).contains key = true ↔ ∃ name ∈ names, key = .text name := by
  rw [List.contains_iff_exists_mem_beq]
  constructor
  · rintro ⟨_, hmem, hkey⟩
    obtain ⟨name, hname, rfl⟩ := List.mem_map.mp hmem
    exact ⟨name, hname, beq_text_iff.mp hkey⟩
  · rintro ⟨name, hname, rfl⟩
    exact ⟨_, List.mem_map_of_mem hname, BEq.rfl⟩

namespace Value

/-- The keys of a mapping; no other value has any. -/
def keys : Value → List Scalar
  | .mapping entries => Entries.keys entries
  | _ => []

/-- A value is a mapping with the keys of these names, and with no others. -/
def HasExactly (names : List String) (value : Value) : Prop :=
  value.isMapping = true ∧ ∀ key, key ∈ value.keys ↔ key ∈ names.map Scalar.text

/-- A mapping without its entries under other keys than those of these names. -/
def keepKeys (names : List String) : Value → Value
  | .mapping entries => .mapping (entries.filter fun entry => (names.map Scalar.text).contains entry.1)
  | value => value

end Value

namespace Settings

open Outcome

/-- The parts that are mappings themselves, and the names of their keys. -/
def innerParts : List (String × List String) :=
  [("areas", ["fallback"]), ("colors", ["base", "fallback", "unmatched"]),
   ("opacity", ["dimmed", "normal"]), ("popup", ["max_tokens"])]

/-- The names of the keys inside the part under a key, if it is a mapping itself. -/
def innerKeys? : Scalar → Option (List String)
  | .text name => innerParts.lookup name
  | _ => none

/-- What is left of the part under a key without the keys that mean nothing. -/
def paredPart (key : Scalar) (value : Value) : Value :=
  (innerKeys? key).elim value value.keepKeys

/-- Settings without the keys that mean nothing inside the parts. -/
def pared : Value → Value
  | .mapping entries => .mapping (entries.map fun entry => (entry.1, paredPart entry.1 entry.2))
  | settings => settings

/-- Settings have all keys that mean something, and no others on any level. -/
def IsExact (settings : Value) : Prop :=
  settings.HasExactly parts ∧
    ∀ part ∈ innerParts, ∃ inside, settings.at? [.text part.1] = some inside ∧
      inside.HasExactly part.2

/-! ## What is passed over -/

/-- Two parts hold the same under the keys of these names. -/
def AgreeOn (names : List String) (part other : Part) : Prop :=
  ∀ name ∈ names, Entries.get? (.text name) part = Entries.get? (.text name) other

/-- Parts that agree on keys have the same of them. -/
theorem requireKeys_congr {names : List String} {inside other : Part}
    (h : AgreeOn names inside other) (part : String) :
    requireKeys part names inside = requireKeys part names other := by
  unfold requireKeys
  have hfilter : (names.filter fun key => !Entries.has (.text key) inside) =
      names.filter fun key => !Entries.has (.text key) other := by
    refine List.filter_congr fun name hname => ?_
    rw [Entries.has, Entries.has, h name hname]
  rw [hfilter]

/-- Parts that agree on a key have the same value there. -/
theorem item_congr {names : List String} {inside other : Part} (h : AgreeOn names inside other)
    {name : String} (hname : name ∈ names) : item name inside = item name other := by
  rw [item, item, h name hname]

/-- The known keys of a part hold what they held before the others were dropped. -/
theorem agreeOn_filter (names : List String) (inside : Part) :
    AgreeOn names (inside.filter fun entry => (names.map Scalar.text).contains entry.1) inside := by
  intro name hname
  refine Entries.get?_filter (fun key hkey => ?_) inside
  exact Scalar.contains_texts_iff.mpr ⟨name, hname, Scalar.beq_text_iff.mp hkey⟩

/-- What is done with a part does not depend on keys that mean nothing, if what is done with its
entries does not. -/
theorem mapping_keepKeys_bind {α : Type} {names : List String} {next : Part → Except Refusal α}
    (hnext : ∀ inside other, AgreeOn names inside other → next inside = next other)
    (part : String) (value : Value) :
    (mapping part (value.keepKeys names) >>= next) = (mapping part value >>= next) := by
  cases value with
  | mapping inside => exact hnext _ _ (agreeOn_filter names inside)
  | scalar value => rfl
  | list items => rfl

/-- What is done with a mapping is done with its entries. -/
theorem mapping_bind {α : Type} (part : String) (entries : Part) (next : Part → Except Refusal α) :
    (mapping part (.mapping entries) >>= next) = next entries := rfl

/-- Under a key that is a text is found what is left of the value that was found there before. -/
theorem item_paredParts (name : String) (entries : Part) :
    item name (entries.map fun entry => (entry.1, paredPart entry.1 entry.2)) =
      paredPart (.text name) (item name entries) := by
  unfold item
  rw [Entries.get?_map fun other hother => Scalar.beq_text_iff.mp hother]
  cases Entries.get? (.text name) entries with
  | some value => rfl
  | none =>
    rw [Option.map_none, Option.getD_none, paredPart]
    cases innerKeys? (.text name) <;> rfl

/-- The keys of the parts are the same without the keys inside them that mean nothing. -/
theorem checkParts_paredParts (allowUnknown : Bool) (entries : Part) :
    checkParts allowUnknown (entries.map fun entry => (entry.1, paredPart entry.1 entry.2)) =
      checkParts allowUnknown entries := by
  have hkeys : Entries.keys (entries.map fun entry => (entry.1, paredPart entry.1 entry.2)) =
      Entries.keys entries := by
    rw [Entries.keys, Entries.keys, List.map_map]
    rfl
  have hrequire : requireKeys "style config" parts
      (entries.map fun entry => (entry.1, paredPart entry.1 entry.2)) =
        requireKeys "style config" parts entries := by
    unfold requireKeys Entries.has
    simp only [Entries.get?_map fun other hother => Scalar.beq_text_iff.mp hother, Option.isSome_map]
  unfold checkParts forbidOthers
  rw [hrequire, hkeys]

/-- Without the keys inside the parts that mean nothing settings describe the same theme, or are refused
for the same reason. -/
theorem theme_pared (allowUnknown : Bool) (settings : Value) :
    theme allowUnknown (pared settings) = theme allowUnknown settings := by
  cases settings with
  | scalar value => rfl
  | list items => rfl
  | mapping entries =>
    -- no keys inside are known for the name of the property and the palette
    have hcode : ∀ value, paredPart (.text "code_property") value = value := fun _ => rfl
    have hpalette : ∀ value, paredPart (.text "palette") value = value := fun _ => rfl
    unfold theme pared
    rw [mapping_bind, mapping_bind, checkParts_paredParts]
    simp only [item_paredParts, hcode, hpalette]
    refine bind_congr fun _ => bind_congr fun _ => bind_congr fun _ => ?_
    refine (mapping_keepKeys_bind (fun inside other hagree => ?_) "colors" _).trans ?_
    · rw [requireKeys_congr hagree, item_congr hagree (by decide : "unmatched" ∈ _),
        item_congr hagree (by decide : "fallback" ∈ _), item_congr hagree (by decide : "base" ∈ _)]
    refine bind_congr fun _ => bind_congr fun _ => bind_congr fun _ => bind_congr fun _ =>
      bind_congr fun _ => ?_
    refine (mapping_keepKeys_bind (fun inside other hagree => ?_) "opacity" _).trans ?_
    · rw [requireKeys_congr hagree, item_congr hagree (by decide : "normal" ∈ _),
        item_congr hagree (by decide : "dimmed" ∈ _)]
    refine bind_congr fun _ => bind_congr fun _ => bind_congr fun _ => bind_congr fun _ => ?_
    refine (mapping_keepKeys_bind (fun inside other hagree => ?_) "areas" _).trans ?_
    · rw [requireKeys_congr hagree, item_congr hagree (by decide : "fallback" ∈ _)]
    refine bind_congr fun _ => bind_congr fun _ => bind_congr fun _ => ?_
    refine mapping_keepKeys_bind (fun inside other hagree => ?_) "popup" _
    rw [requireKeys_congr hagree, item_congr hagree (by decide : "max_tokens" ∈ _)]

/-! ## What is complained about -/

/-- A text is found as a key where an entry has it. -/
theorem has_text_iff {name : String} {entries : Part} :
    Entries.has (.text name) entries = true ↔ .text name ∈ Entries.keys entries := by
  rw [Entries.has_iff]
  constructor
  · rintro ⟨key, hmem, hkey⟩
    rwa [← Scalar.beq_text_iff.mp hkey]
  · intro hmem
    exact ⟨_, hmem, BEq.rfl⟩

/-- A mapping has the keys that it has to have, or the missing ones are complained about. -/
theorem requireKeys_cases (part : String) (names : List String) (entries : Part) :
    (requireKeys part names entries = .ok () ∧
        ∀ name ∈ names, .text name ∈ Entries.keys entries) ∨
      (∃ missing, requireKeys part names entries = fail (.missingKeys part missing)) ∧
        ¬∀ name ∈ names, .text name ∈ Entries.keys entries := by
  have hmissing : ∀ name, name ∈ names.filter (fun key => !Entries.has (.text key) entries) ↔
      name ∈ names ∧ .text name ∉ Entries.keys entries := by
    intro name
    rw [List.mem_filter, Bool.not_eq_true', ← Bool.not_eq_true, has_text_iff]
  unfold requireKeys
  split
  · next hnone =>
    refine Or.inl ⟨rfl, fun name hname => ?_⟩
    by_contra habsent
    have hmem := (hmissing name).mpr ⟨hname, habsent⟩
    rw [hnone] at hmem
    cases hmem
  · next missing hsome =>
    refine Or.inr ⟨⟨_, rfl⟩, fun hall => ?_⟩
    obtain ⟨name, hname⟩ := List.exists_mem_of_ne_nil _ hsome
    obtain ⟨hknown, habsent⟩ := (hmissing name).mp hname
    exact habsent (hall name hknown)

/-- Keys that are texts can be listed. -/
theorem keyTrouble_texts {keys : List Scalar} (h : ∀ key ∈ keys, ∃ name, key = .ofWording name) :
    keyTrouble keys = none := by
  have hkind : ∀ key ∈ keys, key.kind = "str" := by
    intro key hkey
    obtain ⟨name, rfl⟩ := h key hkey
    cases name <;> rfl
  cases keys with
  | nil => rfl
  | cons first others =>
    obtain ⟨hfirst, hothers⟩ := List.forall_mem_cons.mp hkind
    have hsame : others.find? (fun key => (key.kind = "str") != (first.kind = "str") ||
        (key.kind = "NoneType") != (first.kind = "NoneType")) = none := by
      refine List.find?_eq_none.mpr fun key hkey => ?_
      rw [hothers key hkey, hfirst]
      exact Bool.false_ne_true
    rw [keyTrouble, hsame]
    exact if_pos hfirst

/-- The keys that are complained about are those that are not known. -/
theorem mem_unknown_iff {names : List String} {keys : List Scalar} {key : Scalar} :
    key ∈ keys.filter (fun key => !(names.map Scalar.text).contains key) ↔
      key ∈ keys ∧ key ∉ names.map Scalar.text := by
  have hknown : (names.map Scalar.text).contains key = true ↔ key ∈ names.map Scalar.text := by
    rw [Scalar.contains_texts_iff, List.mem_map]
    simp only [eq_comm]
  rw [List.mem_filter, Bool.not_eq_true', ← Bool.not_eq_true, hknown]

/-- A mapping that passes has no keys but the known ones. -/
theorem known_of_forbidOthers {part : String} {names : List String} {entries : Part}
    (h : forbidOthers part names entries = .ok ()) :
    ∀ key ∈ Entries.keys entries, key ∈ names.map Scalar.text := by
  intro key hkey
  by_contra hfurther
  have hmem := mem_unknown_iff.mpr ⟨hkey, hfurther⟩
  unfold forbidOthers at h
  dsimp only at h
  split at h
  · next hnone =>
    rw [hnone] at hmem
    cases hmem
  · split at h <;> cases h

/-- Of two rows of numbers one does not come after the other. -/
theorem leCodes_total (as bs : List Nat) :
    (Wording.leCodes as bs || Wording.leCodes bs as) = true := by
  induction as generalizing bs with
  | nil => rfl
  | cons a as ih =>
    cases bs with
    | nil => rfl
    | cons b bs =>
      rcases Nat.lt_trichotomy a b with hless | rfl | hmore
      · simp [Wording.leCodes, hless.ne, hless]
      · simpa [Wording.leCodes] using ih bs
      · simp [Wording.leCodes, hmore.ne, hmore]

/-- What does not come after a row that does not come after a third does not come after the third. -/
theorem leCodes_trans {as bs cs : List Nat} (hab : Wording.leCodes as bs = true)
    (hbc : Wording.leCodes bs cs = true) : Wording.leCodes as cs = true := by
  induction as generalizing bs cs with
  | nil => rfl
  | cons a as ih =>
    match bs, cs, hab, hbc with
    | b :: bs, c :: cs, hab, hbc =>
      rw [Wording.leCodes] at hab hbc ⊢
      split at hab
      · next hsame =>
        subst hsame
        split at hbc
        · next hsame =>
          subst hsame
          rw [if_pos rfl]
          exact ih hab hbc
        · next hother =>
          rw [if_neg hother]
          exact hbc
      · next hother =>
        have hless := of_decide_eq_true hab
        split at hbc
        · next hsame =>
          rw [if_neg (hsame ▸ hother)]
          exact decide_eq_true (hsame ▸ hless)
        · have hthird := Nat.lt_trans hless (of_decide_eq_true hbc)
          rw [if_neg hthird.ne]
          exact decide_eq_true hthird

/-- Sorted texts are in order. -/
theorem pairwise_mergeSort_wording (texts : List Wording) :
    (texts.mergeSort Wording.le).Pairwise fun a b => a.le b = true := by
  have htrans : ∀ a b c : Wording, a.le b = true → b.le c = true → a.le c = true :=
    fun _ _ _ => leCodes_trans
  have htotal : ∀ a b : Wording, (a.le b || b.le a) = true := fun _ _ => leCodes_total _ _
  exact List.pairwise_mergeSort htrans htotal texts

/-- Where the keys are texts, those that are not known are complained about in order. -/
theorem forbidOthers_of_further (part : String) {names : List String} {entries : Part}
    (htexts : ∀ key ∈ Entries.keys entries, ∃ name, key = .ofWording name)
    (hfurther : ∃ key ∈ Entries.keys entries, key ∉ names.map Scalar.text) :
    ∃ unknown, forbidOthers part names entries = fail (.unknownKeys part unknown) ∧
      (unknown.Pairwise fun a b => a.le b = true) ∧
      ∀ name, name ∈ unknown ↔ .ofWording name ∈ Entries.keys entries ∧
        .ofWording name ∉ names.map Scalar.text := by
  obtain ⟨key, hkey, hnew⟩ := hfurther
  have hmem := mem_unknown_iff.mpr ⟨hkey, hnew⟩
  unfold forbidOthers
  dsimp only
  split
  · next hnone =>
    rw [hnone] at hmem
    cases hmem
  · rw [keyTrouble_texts fun key hkey => htexts key (mem_unknown_iff.mp hkey).1]
    refine ⟨_, rfl, pairwise_mergeSort_wording _, fun name => ?_⟩
    rw [List.mem_mergeSort, List.mem_filterMap, ← mem_unknown_iff]
    constructor
    · rintro ⟨key, hunknown, hname⟩
      obtain ⟨other, rfl⟩ := htexts key (mem_unknown_iff.mp hunknown).1
      rw [Scalar.wording?_ofWording] at hname
      rwa [← Option.some.inj hname]
    · exact fun hunknown => ⟨_, hunknown, Scalar.wording?_ofWording name⟩

/-- A mapping that passes has the keys that it has to have. -/
theorem mem_keys_of_requireKeys {part : String} {names : List String} {entries : Part}
    (h : requireKeys part names entries = .ok ()) :
    ∀ name ∈ names, .text name ∈ Entries.keys entries := by
  rcases requireKeys_cases part names entries with ⟨-, hall⟩ | ⟨⟨missing, hmissing⟩, -⟩
  · exact hall
  · cases hmissing.symm.trans h

/-- Settings that pass have the keys of the six parts and no others. -/
theorem hasExactly_of_checkParts {entries : Part} (h : checkParts false entries = .ok ()) :
    (Value.mapping entries).HasExactly parts := by
  obtain ⟨⟨⟩, hrequire, hforbid⟩ := bind_eq_ok_iff.mp h
  refine ⟨rfl, fun key => ⟨known_of_forbidOthers hforbid key, fun hkey => ?_⟩⟩
  obtain ⟨part, hpart, rfl⟩ := List.mem_map.mp hkey
  exact mem_keys_of_requireKeys hrequire part hpart

/-- A part that has the keys that it has to have is left with them and no others. -/
theorem hasExactly_keepKeys {part : String} {names : List String} {inside : Part}
    (h : requireKeys part names inside = .ok ()) :
    ((Value.mapping inside).keepKeys names).HasExactly names := by
  refine ⟨rfl, fun key => ?_⟩
  have hkeys : ((Value.mapping inside).keepKeys names).keys =
      (Entries.keys inside).filter fun key => (names.map Scalar.text).contains key := by
    rw [Entries.keys, List.filter_map]
    rfl
  rw [hkeys, List.mem_filter, Scalar.contains_texts_iff]
  constructor
  · rintro ⟨-, name, hname, rfl⟩
    exact List.mem_map_of_mem hname
  · intro hkey
    obtain ⟨name, hname, rfl⟩ := List.mem_map.mp hkey
    exact ⟨mem_keys_of_requireKeys h name hname, name, hname, rfl⟩

/-- Settings that describe a theme have all keys, and what is left of them has no others. -/
theorem isExact_pared_of_theme {settings : Value} {look : Theme}
    (h : theme false settings = .ok look) :
    settings.HasExactly parts ∧ IsExact (pared settings) := by
  obtain ⟨entries, colorPart, opacityPart, areaPart, popupPart, rfl, hlook⟩ := theme_eq_ok_iff.mp h
  have hexact := hasExactly_of_checkParts hlook.parts
  have hinside : ∀ part names inside, item part entries = .mapping inside →
      innerParts.lookup part = some names → requireKeys part names inside = .ok () →
      ∃ found, (pared (.mapping entries)).at? [.text part] = some found ∧
        found.HasExactly names := by
    intro part names inside hitem hnames hrequire
    refine ⟨_, at?_of_item (item_paredParts part entries) ?_, ?_⟩
    · rw [hitem, paredPart, innerKeys?, hnames]
      exact nofun
    · rw [hitem, paredPart, innerKeys?, hnames]
      exact hasExactly_keepKeys hrequire
  refine ⟨hexact, ⟨rfl, fun key => ?_⟩, ?_⟩
  · rw [← hexact.2 key]
    have hkeys : (pared (.mapping entries)).keys = (Value.mapping entries).keys :=
      List.map_map
    rw [hkeys]
  · simp only [innerParts, List.forall_mem_cons]
    exact ⟨hinside _ _ _ hlook.areas rfl hlook.areaKeys, hinside _ _ _ hlook.colors rfl hlook.colorKeys,
      hinside _ _ _ hlook.opacities rfl hlook.opacityKeys,
      hinside _ _ _ hlook.popup rfl hlook.popupKeys, nofun⟩

/-- Settings with a further key are refused, and if they lack none, exactly the further ones are named,
in order. -/
theorem theme_of_further {settings : Value}
    (htexts : ∀ key ∈ settings.keys, ∃ name, key = .ofWording name)
    (hfurther : ∃ key ∈ settings.keys, key ∉ parts.map Scalar.text) :
    ∃ fault, theme false settings = .error (.fault fault) ∧
      ((∀ part ∈ parts, .text part ∈ settings.keys) →
        ∃ unknown, fault = .unknownKeys "style config" unknown ∧
          (unknown.Pairwise fun a b => a.le b = true) ∧
          ∀ name, name ∈ unknown ↔ .ofWording name ∈ settings.keys ∧
            .ofWording name ∉ parts.map Scalar.text) := by
  cases settings with
  | scalar value => obtain ⟨key, hkey, -⟩ := hfurther; cases hkey
  | list items => obtain ⟨key, hkey, -⟩ := hfurther; cases hkey
  | mapping entries =>
    have htheme : ∀ refusal, checkParts false entries = .error refusal →
        theme false (.mapping entries) = .error refusal := by
      intro refusal hrefusal
      rw [theme, mapping_bind, hrefusal]
      rfl
    rcases requireKeys_cases "style config" parts entries with ⟨hrequire, hall⟩ |
      ⟨⟨missing, hmissing⟩, hlack⟩
    · obtain ⟨unknown, hforbid, horder, hunknown⟩ :=
        forbidOthers_of_further "style config" htexts hfurther
      refine ⟨_, htheme _ ?_, fun _ => ⟨unknown, rfl, horder, hunknown⟩⟩
      rw [checkParts, hrequire]
      exact hforbid
    · refine ⟨.missingKeys "style config" missing, htheme _ ?_, fun hall => absurd hall hlack⟩
      rw [checkParts, hmissing]
      rfl

/-- Settings with a key on the top level that means nothing are refused, and unless they lack a key the
complaint names all such keys in order; so settings that are accepted have exactly the six keys there.
Inside the parts the known keys have to be, but all others are passed over: what is accepted is exact on
every level once these are dropped, and without them it comes out the same. -/
theorem further_keys_refused_at_top (settings : Value) :
    (∀ look, theme false settings = .ok look →
        settings.HasExactly parts ∧ IsExact (pared settings)) ∧
      ((∀ key ∈ settings.keys, ∃ name, key = .ofWording name) →
        (∃ key ∈ settings.keys, key ∉ parts.map Scalar.text) →
          ∃ fault, theme false settings = .error (.fault fault) ∧
            ((∀ part ∈ parts, .text part ∈ settings.keys) →
              ∃ unknown, fault = .unknownKeys "style config" unknown ∧
                (unknown.Pairwise fun a b => a.le b = true) ∧
                ∀ name, name ∈ unknown ↔ .ofWording name ∈ settings.keys ∧
                  .ofWording name ∉ parts.map Scalar.text)) ∧
      theme false (pared settings) = theme false settings :=
  ⟨fun _ htheme => isExact_pared_of_theme htheme, theme_of_further, theme_pared false settings⟩

/-- The shortest settings, with one color more. -/
def furtherColor : Value :=
  .record [("code_property", .text "n"), ("palette", .list [.text "#59a14f"]),
    ("colors", .record [("unmatched", .text "#dddddd"), ("fallback", .text "#cccccc"),
      ("base", .text "#cccccc"), ("border", .text "#000000")]),
    ("opacity", .record [("normal", .int 1), ("dimmed", .int 0)]),
    ("areas", .record [("fallback", .list [])]), ("popup", .record [("max_tokens", .int 1)])]

/-- It is accepted, though nothing is known of that color. -/
theorem furtherColor_accepted :
    theme false furtherColor = .ok minimalTheme ∧ ¬ IsExact furtherColor := by
  refine ⟨by decide +kernel, fun hexact => ?_⟩
  obtain ⟨inside, hinside, -, hkeys⟩ := hexact.2 ("colors", ["base", "fallback", "unmatched"])
    (by decide)
  obtain rfl := Option.some.inj hinside
  have hborder : Scalar.text "border" ∈ ["base", "fallback", "unmatched"].map Scalar.text :=
    (hkeys _).mp (by simp [Value.record, Value.keys, Entries.keys])
  simp at hborder

end Settings

end DistrictAtlas
