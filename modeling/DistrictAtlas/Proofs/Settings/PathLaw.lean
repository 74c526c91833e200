import DistrictAtlas.Proofs.Entries
import DistrictAtlas.Settings.Overlay

/-!
# What an overlay changes

A path of keys leads through mappings to a value. Along a path the overlay is followed as long as it
has mappings: where it ends in something else its own value stands, and where it has nothing at all the
settings below show. Laying the same overlay over once more changes nothing.
-/

namespace DistrictAtlas.Value

/-- Whether a value is a mapping. -/
def isMapping : Value → Bool
  | .mapping _ => true
  | _ => false

/-- What a path of keys leads to, each of which has to lead on inside a mapping. -/
def at? (value : Value) : List Scalar → Option Value
  | [] => some value
  | key :: rest =>
    match value with
    | .mapping entries => (Entries.get? key entries).bind fun found => found.at? rest
    | _ => none

/-- On the way along a path a value comes that is no mapping, at the end of the path if not before. -/
def StopsOn (value : Value) (path : List Scalar) : Prop :=
  ∃ before stop, before <+: path ∧ value.at? before = some stop ∧ stop.isMapping = false

/-- No key comes twice in a mapping, nor in the mappings inside it. -/
inductive IsProper : Value → Prop where
  /-- A scalar has no keys. -/
  | scalar (value : Scalar) : IsProper (.scalar value)
  /-- A list is taken as a whole. -/
  | list (items : List Value) : IsProper (.list items)
  /-- A mapping has no key twice, and its values are of the same kind. -/
  | mapping {entries : List (Scalar × Value)} (distinct : Entries.Distinct entries)
      (inside : ∀ entry ∈ entries, IsProper entry.2) : IsProper (.mapping entries)

/-- A value laid over what was found, if anything was. -/
def onto (found : Option Value) (value : Value) : Value :=
  found.elim value fun base => base.overlay value

/-- An entry laid over others goes under its key, on what is found there. -/
theorem overlayEntries_cons (below : List (Scalar × Value)) (key : Scalar) (value : Value)
    (rest : List (Scalar × Value)) :
    overlayEntries below ((key, value) :: rest) =
      overlayEntries (Entries.put key (onto (Entries.get? key below) value) below) rest := by
  rw [overlayEntries]
  cases Entries.get? key below <;> rfl

/-- Under a key that the overlay has, its value is laid over what was found there; under any other key
all stays. -/
theorem get?_overlayEntries (key : Scalar) {entries : List (Scalar × Value)}
    (hentries : Entries.Distinct entries) (below : List (Scalar × Value)) :
    Entries.get? key (overlayEntries below entries) =
      ((Entries.get? key entries).map (onto (Entries.get? key below))).or
        (Entries.get? key below) := by
  induction entries generalizing below with
  | nil => rw [overlayEntries, Entries.get?_nil, Option.map_none, Option.none_or]
  | cons entry rest ih =>
    obtain ⟨first, value⟩ := entry
    obtain ⟨hfirst, hrest⟩ := List.pairwise_cons.mp hentries
    rw [overlayEntries_cons, ih hrest, Entries.get?_put, Entries.get?]
    dsimp only
    by_cases hkey : (first == key) = true
    · -- the key does not come again, so what was put stays
      have hnone : Entries.get? key rest = none :=
        Entries.get?_eq_none fun other hother => by
          rw [BEq.comm, ← BEq.congr_left hkey, hfirst other hother]
      rw [hnone, if_pos hkey, if_pos hkey, Entries.get?_congr hkey]
      rfl
    · rw [if_neg hkey, if_neg hkey]

/-- A path in two pieces leads on from where the first one leads. -/
theorem at?_append (value : Value) (path more : List Scalar) :
    value.at? (path ++ more) = (value.at? path).bind fun found => found.at? more := by
  induction path generalizing value with
  | nil => rfl
  | cons key rest ih =>
    cases value with
    | scalar value => rfl
    | list items => rfl
    | mapping entries =>
      rw [List.cons_append, at?, at?, Option.bind_assoc]
      simp only [ih]

/-- The first key of a path leads to where the rest goes on. -/
theorem at?_cons (value : Value) (key : Scalar) (rest : List Scalar) :
    value.at? (key :: rest) = (value.at? [key]).bind fun found => found.at? rest :=
  at?_append value [key] rest

/-- From what is no mapping no key leads on. -/
theorem at?_cons_of_not_mapping {value : Value} (h : value.isMapping = false) (key : Scalar)
    (rest : List Scalar) : value.at? (key :: rest) = none := by
  cases value with
  | mapping entries => cases h
  | scalar value => rfl
  | list items => rfl

/-- In a mapping one key leads to what is found under it. -/
theorem at?_mapping (entries : List (Scalar × Value)) (key : Scalar) :
    (mapping entries).at? [key] = Entries.get? key entries := by
  rw [at?]
  cases Entries.get? key entries <;> rfl

/-- What is no mapping is laid over anything by taking its place. -/
theorem onto_of_not_mapping {value : Value} (h : value.isMapping = false) (found : Option Value) :
    onto found value = value := by
  cases value with
  | mapping entries => cases h
  | scalar value => cases found <;> rfl
  | list items => cases found <;> rfl

/-- A mapping laid over anything gives a mapping. -/
theorem isMapping_onto {value : Value} (h : value.isMapping = true) (found : Option Value) :
    (onto found value).isMapping = true := by
  cases value with
  | scalar value => cases h
  | list items => cases h
  | mapping entries =>
    cases found with
    | none => rfl
    | some base => cases base <;> rfl

/-- One step on a path: where the overlay has the key, its value is laid over what was found there, and
where it has not, what was found shows. -/
theorem at?_onto_mapping (found : Option Value) {entries : List (Scalar × Value)}
    (hentries : Entries.Distinct entries) (key : Scalar) :
    (onto found (.mapping entries)).at? [key] =
      ((Entries.get? key entries).map (onto (found.bind fun base => base.at? [key]))).or
        (found.bind fun base => base.at? [key]) := by
  have hplain : (mapping entries).at? [key] =
      ((Entries.get? key entries).map (onto none)).or none := by
    rw [at?_mapping, Option.or_none]
    cases Entries.get? key entries <;> rfl
  cases found with
  | none => exact hplain
  | some base =>
    cases base with
    | scalar value => exact hplain
    | list items => exact hplain
    | mapping below =>
      have hoverlay : onto (some (mapping below)) (mapping entries) =
          mapping (overlayEntries below entries) := rfl
      rw [hoverlay, at?_mapping, get?_overlayEntries key hentries, Option.bind_some, at?_mapping]

/-- A path on which nothing but mappings come leads to what the overlay has there laid over what was
found there, and to this alone where the overlay has nothing. -/
theorem at?_onto_of_not_stops {path : List Scalar} {value : Value} (hvalue : value.IsProper)
    (h : ¬value.StopsOn path) (found : Option Value) :
    (onto found value).at? path =
      ((value.at? path).map (onto (found.bind fun base => base.at? path))).or
        (found.bind fun base => base.at? path) := by
  induction path generalizing value found with
  | nil =>
    have hfound : (found.bind fun base => base.at? []) = found := by cases found <;> rfl
    rw [hfound]
    rfl
  | cons key rest ih =>
    cases hvalue with
    | scalar value => exact absurd ⟨[], _, List.nil_prefix, rfl, rfl⟩ h
    | list items => exact absurd ⟨[], _, List.nil_prefix, rfl, rfl⟩ h
    | @mapping entries hdistinct hinside =>
      have hpath : (found.bind fun base => base.at? (key :: rest)) =
          (found.bind fun base => base.at? [key]).bind fun base => base.at? rest := by
        rw [Option.bind_assoc]
        simp only [← at?_cons]
      rw [at?_cons, at?_onto_mapping found hdistinct, at?_cons (mapping entries), at?_mapping, hpath]
      cases hkey : Entries.get? key entries with
      | none => rfl
      | some inner =>
        obtain ⟨entry, hentry, rfl⟩ := Entries.mem_of_get? hkey
        refine ih (hinside entry hentry) ?_ _
        rintro ⟨before, stop, hbefore, hstop, hnot⟩
        refine h ⟨key :: before, stop, List.cons_prefix_cons.mpr ⟨rfl, hbefore⟩, ?_, hnot⟩
        rw [at?_cons, at?_mapping, hkey]
        exact hstop

/-- Once something else than a mapping has come, the overlay alone shows. -/
theorem at?_onto_of_stops {path : List Scalar} {value : Value} (hvalue : value.IsProper)
    (h : value.StopsOn path) (found : Option Value) :
    (onto found value).at? path = value.at? path := by
  induction path generalizing value found with
  | nil =>
    obtain ⟨before, stop, hbefore, hstop, hnot⟩ := h
    rw [List.prefix_nil.mp hbefore] at hstop
    rw [onto_of_not_mapping (Option.some.inj hstop ▸ hnot)]
  | cons key rest ih =>
    cases hvalue with
    | scalar value => rw [onto_of_not_mapping rfl]
    | list items => rw [onto_of_not_mapping rfl]
    | @mapping entries hdistinct hinside =>
      obtain ⟨before, stop, hbefore, hstop, hnot⟩ := h
      cases before with
      | nil =>
        -- the overlay itself is a mapping
        cases hstop
        cases hnot
      | cons first before =>
        obtain ⟨rfl, hrest⟩ := List.cons_prefix_cons.mp hbefore
        rw [at?_cons, at?_mapping] at hstop
        rw [at?_cons, at?_onto_mapping found hdistinct, at?_cons (mapping entries), at?_mapping]
        cases hkey : Entries.get? first entries with
        | none =>
          rw [hkey] at hstop
          cases hstop
        | some inner =>
          rw [hkey] at hstop
          obtain ⟨entry, hentry, rfl⟩ := Entries.mem_of_get? hkey
          exact ih (hinside entry hentry) ⟨before, stop, hrest, hstop, hnot⟩ _

/-- Only mappings come on a path that leads to one. -/
theorem not_stopsOn_of_at? {path : List Scalar} {value found : Value}
    (h : value.at? path = some found) (hfound : found.isMapping = true) : ¬value.StopsOn path := by
  rintro ⟨before, stop, ⟨more, rfl⟩, hstop, hnot⟩
  rw [at?_append, hstop, Option.bind_some] at h
  cases more with
  | nil =>
    cases h
    rw [hfound] at hnot
    cases hnot
  | cons key rest =>
    rw [at?_cons_of_not_mapping hnot] at h
    cases h

/-- Where the overlay has a mapping, there is a mapping when it is laid over. -/
theorem isMapping_at?_overlay (base : Value) {above : Value} (habove : above.IsProper)
    {path : List Scalar} {found : Value} (h : above.at? path = some found)
    (hfound : found.isMapping = true) :
    ∃ merged, (base.overlay above).at? path = some merged ∧ merged.isMapping = true := by
  refine ⟨onto (base.at? path) found, ?_, isMapping_onto hfound _⟩
  have hpath := at?_onto_of_not_stops habove (not_stopsOn_of_at? h hfound) (some base)
  rw [h] at hpath
  exact hpath

/-- What shows once an overlay is laid over and is no mapping, is what the overlay has there, and else
what was there before. -/
theorem or_at?_of_at?_overlay {base above : Value} (habove : above.IsProper) {path : List Scalar}
    {found : Value} (h : (base.overlay above).at? path = some found)
    (hfound : found.isMapping = false) : (above.at? path).or (base.at? path) = some found := by
  by_cases hstops : above.StopsOn path
  · have hpath : (base.overlay above).at? path = above.at? path :=
      at?_onto_of_stops habove hstops (some base)
    rw [← hpath, h, Option.some_or]
  · have hpath : (base.overlay above).at? path =
        ((above.at? path).map (onto (base.at? path))).or (base.at? path) :=
      at?_onto_of_not_stops habove hstops (some base)
    rw [hpath] at h
    cases hinner : above.at? path with
    | none =>
      rw [hinner] at h
      exact h
    | some inner =>
      -- nothing but a mapping can be at the end of the path, and laid over it stays one
      rw [hinner] at h
      cases hmapping : inner.isMapping with
      | false => exact absurd ⟨path, inner, List.prefix_refl path, hinner, hmapping⟩ hstops
      | true =>
        rw [← Option.some.inj h, isMapping_onto hmapping] at hfound
        cases hfound

/-- Entries change nothing where each of them already shows. -/
theorem overlayEntries_eq_self {below entries : List (Scalar × Value)}
    (h : ∀ entry ∈ entries, ∃ found, Entries.get? entry.1 below = some found ∧
      found.overlay entry.2 = found) : overlayEntries below entries = below := by
  induction entries with
  | nil => rw [overlayEntries]
  | cons entry rest ih =>
    obtain ⟨⟨found, hfound, hsame⟩, hrest⟩ := List.forall_mem_cons.mp h
    have honto : onto (Entries.get? entry.1 below) entry.2 = found := by rw [hfound]; exact hsame
    rw [overlayEntries_cons, honto, Entries.put_of_get? hfound, ih hrest]

/-- What was laid over something changes nothing when it is laid over the result. -/
theorem overlay_onto {above : Value} (habove : above.IsProper) (found : Option Value) :
    (onto found above).overlay above = onto found above := by
  induction habove generalizing found with
  | scalar value =>
    rw [onto_of_not_mapping rfl]
    exact overlay_scalar _ value
  | list items =>
    rw [onto_of_not_mapping rfl]
    rfl
  | @mapping entries hdistinct hinside ih =>
    obtain ⟨merged, hmerged⟩ : ∃ merged, onto found (mapping entries) = mapping merged := by
      cases found with
      | none => exact ⟨entries, rfl⟩
      | some base => cases base <;> exact ⟨_, rfl⟩
    rw [hmerged]
    refine congrArg mapping (overlayEntries_eq_self fun entry hentry => ?_)
    have hstep := at?_onto_mapping found hdistinct entry.1
    rw [hmerged, at?_mapping, hdistinct.get?_of_mem hentry] at hstep
    exact ⟨_, hstep, ih entry hentry _⟩

/-- Laying the same overlay over once more changes nothing. -/
theorem overlay_overlay {above : Value} (habove : above.IsProper) (base : Value) :
    (base.overlay above).overlay above = base.overlay above :=
  overlay_onto habove (some base)

/-- What laying a document over another does along every path of keys. -/
structure PathLaw (base above : Value) : Prop where
  /-- Where something else than a mapping comes in the overlay, the overlay alone shows. -/
  replaced (path : List Scalar) : above.StopsOn path →
    (base.overlay above).at? path = above.at? path
  /-- Where nothing comes in the overlay but mappings, and at the end nothing at all, all stays. -/
  kept (path : List Scalar) : ¬above.StopsOn path → above.at? path = none →
    (base.overlay above).at? path = base.at? path
  /-- Where the overlay has a mapping there is a mapping. -/
  joined (path : List Scalar) (inner : Value) : above.at? path = some inner →
    inner.isMapping = true →
    ∃ merged, (base.overlay above).at? path = some merged ∧ merged.isMapping = true
  /-- The same overlay laid over once more changes nothing. -/
  settled : (base.overlay above).overlay above = base.overlay above

/-- Overlays without a key that comes twice obey the path law. -/
theorem pathLaw_of_isProper (base : Value) {above : Value} (habove : above.IsProper) :
    base.PathLaw above where
  replaced path hstops := at?_onto_of_stops habove hstops (some base)
  kept path hstops hnone := by
    have hpath := at?_onto_of_not_stops habove hstops (some base)
    rw [hnone] at hpath
    exact hpath
  joined path inner hinner hmapping := isMapping_at?_overlay base habove hinner hmapping
  settled := overlay_overlay habove base

/-- A list takes the place of a mapping and a mapping that of a number, beside what stays. -/
example : (record [("a", record [("b", int 1)]), ("c", int 2), ("d", record [("e", int 3)])]).overlay
      (record [("a", .list []), ("c", record []), ("d", record [("f", int 4)])]) =
    record [("a", .list []), ("c", record []), ("d", record [("e", int 3), ("f", int 4)])] := by
  rfl

end DistrictAtlas.Value
