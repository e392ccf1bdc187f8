import OdooMcp.JsonText

/-!
# Canonical JSON round trips

The values that `json.loads` reads from a canonical text are written as the same text again, and two
of them with one canonical text are equal as Python compares them: the order of the keys of a dict
does not count.
-/

namespace OdooMcp

/-! ### Dicts -/

section Dict

variable {κ ν ω : Type} [DecidableEq κ]

theorem keys_dictSet (entries : List (κ × ν)) (key : κ) (value : ν) :
    (dictSet entries key value).map Prod.fst =
      if key ∈ entries.map Prod.fst then entries.map Prod.fst
      else entries.map Prod.fst ++ [key] := by
  induction entries with
  | nil => rfl
  | cons entry entries ih =>
      unfold dictSet
      by_cases hkey : entry.1 = key
      · simp [hkey]
      · have hother : key ≠ entry.1 := fun heq => hkey heq.symm
        have hmem : key ∈ (entry :: entries).map Prod.fst ↔ key ∈ entries.map Prod.fst := by
          simp [hother]
        rw [if_neg hkey, List.map_cons, ih]
        by_cases hrest : key ∈ entries.map Prod.fst
        · rw [if_pos hrest, if_pos (hmem.mpr hrest), List.map_cons]
        · rw [if_neg hrest, if_neg (mt hmem.mp hrest), List.map_cons, List.cons_append]

theorem nodup_keys_dictSet {entries : List (κ × ν)} (hnodup : (entries.map Prod.fst).Nodup)
    (key : κ) (value : ν) : ((dictSet entries key value).map Prod.fst).Nodup := by
  rw [keys_dictSet]
  split
  · exact hnodup
  · rename_i hkey
    exact List.nodup_append.mpr ⟨hnodup, List.nodup_singleton _, by
      intro other hother last hlast heq
      rw [List.mem_singleton.mp hlast] at heq
      exact hkey (heq ▸ hother)⟩

theorem nodup_keys_dictUpdate {entries changes : List (κ × ν)}
    (hnodup : (entries.map Prod.fst).Nodup) :
    ((dictUpdate entries changes).map Prod.fst).Nodup := by
  induction changes generalizing entries with
  | nil => exact hnodup
  | cons change changes ih => exact ih (nodup_keys_dictSet hnodup change.1 change.2)

theorem dictSet_of_notMem {entries : List (κ × ν)} {key : κ} (hkey : key ∉ entries.map Prod.fst)
    (value : ν) : dictSet entries key value = entries ++ [(key, value)] := by
  induction entries with
  | nil => rfl
  | cons entry entries ih =>
      rw [List.map_cons, List.mem_cons, not_or] at hkey
      unfold dictSet
      rw [if_neg fun heq => hkey.1 heq.symm, ih hkey.2, List.cons_append]

/-- Entries with different keys are collected as they are. -/
theorem dictUpdate_of_nodup {entries changes : List (κ × ν)}
    (hnodup : ((entries ++ changes).map Prod.fst).Nodup) :
    dictUpdate entries changes = entries ++ changes := by
  induction changes generalizing entries with
  | nil => rw [List.append_nil]; rfl
  | cons change changes ih =>
      have hmoved : entries ++ change :: changes = (entries ++ [change]) ++ changes := by simp
      have hkey : change.1 ∉ entries.map Prod.fst := by
        rw [List.map_append, List.nodup_append] at hnodup
        intro hmem
        exact hnodup.2.2 _ hmem _ (by simp) rfl
      change dictUpdate (dictSet entries change.1 change.2) changes = _
      rw [dictSet_of_notMem hkey, hmoved]
      rw [hmoved] at hnodup
      exact ih hnodup

theorem dictSet_map (change : κ → ν → ω) (entries : List (κ × ν)) (key : κ) (value : ν) :
    (dictSet entries key value).map (fun entry => (entry.1, change entry.1 entry.2)) =
      dictSet (entries.map fun entry => (entry.1, change entry.1 entry.2)) key
        (change key value) := by
  induction entries with
  | nil => rfl
  | cons entry entries ih =>
      unfold dictSet
      by_cases hkey : entry.1 = key
      · simp [hkey]
      · simp only [List.map_cons, if_neg hkey, ih]

/-- A change of the values that depends on the key alone can be made before or after. -/
theorem dictUpdate_map (change : κ → ν → ω) (entries changes : List (κ × ν)) :
    (dictUpdate entries changes).map (fun entry => (entry.1, change entry.1 entry.2)) =
      dictUpdate (entries.map fun entry => (entry.1, change entry.1 entry.2))
        (changes.map fun entry => (entry.1, change entry.1 entry.2)) := by
  induction changes generalizing entries with
  | nil => rfl
  | cons first changes ih =>
      change (dictUpdate (dictSet entries first.1 first.2) changes).map _ = _
      rw [ih, dictSet_map]
      rfl

omit [DecidableEq κ] in
/-- Permuted entries with the same keys in the same places are the same. -/
theorem eq_of_perm_of_keys {first second : List (κ × ν)} (hperm : first.Perm second)
    (hkeys : first.map Prod.fst = second.map Prod.fst) (hnodup : (first.map Prod.fst).Nodup) :
    first = second := by
  have hvalue {entries : List (κ × ν)} (hentries : (entries.map Prod.fst).Nodup) {one other : κ × ν}
      (hone : one ∈ entries) (hother : other ∈ entries) (hkey : one.1 = other.1) : one = other :=
    List.inj_on_of_nodup_map hentries hone hother hkey
  refine List.ext_getElem hperm.length_eq fun index hfirst hsecond => ?_
  have hmem : first[index] ∈ second := hperm.subset (List.getElem_mem hfirst)
  refine hvalue (hkeys ▸ hnodup) hmem (List.getElem_mem hsecond) ?_
  have hindex := congrArg (·[index]?) hkeys
  simpa [hfirst, hsecond] using hindex

end Dict

/-! ### Canonical trees -/

mutual

/-- The keys of every object of this tree are sorted and different. -/
def Json.Canonical : Json → Prop
  | .float text => isFloatText text = true
  | .arr items => CanonicalItems items
  | .obj fields => fields.Pairwise (textBefore · ·) ∧ (fields.map Prod.fst).Nodup ∧
      CanonicalFields fields
  | _ => True

def Json.CanonicalItems : List Json → Prop
  | [] => True
  | item :: items => item.Canonical ∧ CanonicalItems items

def Json.CanonicalFields : List (String × Json) → Prop
  | [] => True
  | (_, value) :: fields => value.Canonical ∧ CanonicalFields fields

end

mutual

theorem Json.Canonical.floatsWritten : ∀ {json : Json}, json.Canonical → json.FloatsWritten
  | .null, _ => trivial
  | .bool _, _ => trivial
  | .int _, _ => trivial
  | .float _, hcanonical => hcanonical
  | .str _, _ => trivial
  | .arr _, hcanonical => floatsWrittenItems_of_canonical hcanonical
  | .obj _, hcanonical => floatsWrittenFields_of_canonical hcanonical.2.2

theorem floatsWrittenItems_of_canonical : ∀ {items : List Json},
    Json.CanonicalItems items → Json.FloatsWrittenItems items
  | [], _ => trivial
  | _ :: _, hcanonical => ⟨hcanonical.1.floatsWritten, floatsWrittenItems_of_canonical hcanonical.2⟩

theorem floatsWrittenFields_of_canonical : ∀ {fields : List (String × Json)},
    Json.CanonicalFields fields → Json.FloatsWrittenFields fields
  | [], _ => trivial
  | (_, _) :: _, hcanonical =>
      ⟨hcanonical.1.floatsWritten, floatsWrittenFields_of_canonical hcanonical.2⟩

end

theorem Json.canonicalFields_iff {fields : List (String × Json)} :
    Json.CanonicalFields fields ↔ ∀ field ∈ fields, field.2.Canonical := by
  induction fields with
  | nil => simp [CanonicalFields]
  | cons field fields ih => simp [CanonicalFields, ih]

instance : Std.Total (α := String × Json) (textBefore · ·) where
  total first second := by
    simp only [textBefore, decide_eq_true_eq]
    exact String.le_total first.1 second.1

instance : IsTrans (String × Json) (textBefore · ·) where
  trans first second third := by
    simp only [textBefore, decide_eq_true_eq]
    exact String.le_trans

/-! ### Values read from JSON -/

mutual

/-- A value as `json.loads` makes it. -/
def PyValue.Loaded : PyValue → Prop
  | .float text finite => finite = isFloatText text
  | .list items => LoadedItems items
  | .dict entries => (entries.map Prod.fst).Nodup ∧ LoadedEntries entries
  | .tuple _ => False
  | .other _ => False
  | _ => True

def PyValue.LoadedItems : List PyValue → Prop
  | [] => True
  | item :: items => item.Loaded ∧ LoadedItems items

def PyValue.LoadedEntries : List (PyKey × PyValue) → Prop
  | [] => True
  | (key, value) :: entries => key.isStr = true ∧ value.Loaded ∧ LoadedEntries entries

end

theorem PyValue.loadedEntries_iff {entries : List (PyKey × PyValue)} :
    PyValue.LoadedEntries entries ↔ ∀ entry ∈ entries, entry.1.isStr = true ∧ entry.2.Loaded := by
  induction entries with
  | nil => simp [LoadedEntries]
  | cons entry entries ih => simp [LoadedEntries, ih, and_assoc]

theorem PyKey.text_injOn {first second : PyKey} (hfirst : first.isStr = true)
    (hsecond : second.isStr = true) (htext : first.text = second.text) : first = second := by
  cases first with
  | str value =>
      cases second with
      | str other => exact congrArg PyKey.str htext
      | _ => cases hsecond
  | _ => cases hfirst

theorem loadsFields_eq_map (fields : List (String × Json)) :
    Json.loadsFields fields = fields.map fun field => (.str field.1, field.2.loads) := by
  induction fields with
  | nil => rfl
  | cons field fields ih => rw [Json.loadsFields, ih, List.map_cons]

theorem nodup_keys_loadsFields {fields : List (String × Json)}
    (hnodup : (fields.map Prod.fst).Nodup) :
    ((Json.loadsFields fields).map Prod.fst).Nodup := by
  rw [loadsFields_eq_map, List.map_map]
  change (List.map (PyKey.str ∘ Prod.fst) fields).Nodup
  rw [← List.map_map]
  exact hnodup.map fun first second heq => PyKey.str.inj heq

mutual

theorem Json.loaded_loads : ∀ json : Json, json.loads.Loaded
  | .null => trivial
  | .bool _ => trivial
  | .int _ => trivial
  | .float _ => rfl
  | .str _ => trivial
  | .arr items => loadedItems_loads items
  | .obj fields => by
      refine ⟨nodup_keys_dictUpdate List.nodup_nil, ?_⟩
      rw [PyValue.loadedEntries_iff]
      intro entry hentry
      rcases mem_of_mem_dictUpdate hentry with hnone | hfield
      · cases hnone
      · exact PyValue.loadedEntries_iff.mp (loadedEntries_loads fields) entry hfield

theorem Json.loadedItems_loads : ∀ items : List Json, PyValue.LoadedItems (Json.loadsItems items)
  | [] => trivial
  | item :: items => ⟨item.loaded_loads, loadedItems_loads items⟩

theorem Json.loadedEntries_loads :
    ∀ fields : List (String × Json), PyValue.LoadedEntries (Json.loadsFields fields)
  | [] => trivial
  | (_, value) :: fields => ⟨rfl, value.loaded_loads, loadedEntries_loads fields⟩

end

/-! ### Equality of values -/

def keyBefore (first second : PyKey × PyValue) : Bool := first.1.text ≤ second.1.text

mutual

/-- The value with the entries of every dict in the order of their keys. Values that were read from
JSON are equal when their normal forms are. -/
def PyValue.normal : PyValue → PyValue
  | .list items => .list (normalItems items)
  | .tuple items => .tuple (normalItems items)
  | .dict entries => .dict ((normalEntries entries).insertionSort (keyBefore · ·))
  | value => value

def PyValue.normalItems : List PyValue → List PyValue
  | [] => []
  | item :: items => item.normal :: normalItems items

def PyValue.normalEntries : List (PyKey × PyValue) → List (PyKey × PyValue)
  | [] => []
  | (key, value) :: entries => (key, value.normal) :: normalEntries entries

end

theorem PyValue.normalEntries_eq_map (entries : List (PyKey × PyValue)) :
    PyValue.normalEntries entries = entries.map fun entry => (entry.1, entry.2.normal) := by
  induction entries with
  | nil => rfl
  | cons entry entries ih => rw [normalEntries, ih, List.map_cons]

/-! ### Writing values -/

theorem canonicalJson_dict_ok {entries : List (PyKey × PyValue)} {json : Json} :
    canonicalJson (.dict entries) = .ok json ↔
      ∃ written, canonicalJsonEntries entries = .ok written ∧
        ∃ fields, sortKeys written = .ok fields ∧ json = .obj fields := by
  simp only [canonicalJson, except_bind_ok]
  constructor
  · rintro ⟨written, hwritten, fields, hfields, hjson⟩
    cases hjson
    exact ⟨written, hwritten, fields, hfields, rfl⟩
  · rintro ⟨written, hwritten, fields, hfields, rfl⟩
    exact ⟨written, hwritten, fields, hfields, rfl⟩

theorem canonicalJson_list_ok {items : List PyValue} {json : Json} :
    canonicalJson (.list items) = .ok json ↔
      ∃ written, canonicalJsonItems items = .ok written ∧ json = .arr written := by
  simp only [canonicalJson, except_bind_ok]
  constructor
  · rintro ⟨written, hwritten, hjson⟩
    cases hjson
    exact ⟨written, hwritten, rfl⟩
  · rintro ⟨written, hwritten, rfl⟩
    exact ⟨written, hwritten, rfl⟩

theorem canonicalJsonItems_cons_ok {item : PyValue} {items : List PyValue} {written : List Json} :
    canonicalJsonItems (item :: items) = .ok written ↔
      ∃ first, canonicalJson item = .ok first ∧
        ∃ rest, canonicalJsonItems items = .ok rest ∧ written = first :: rest := by
  simp only [canonicalJsonItems, except_bind_ok]
  constructor
  · rintro ⟨first, hfirst, rest, hrest, hwritten⟩
    cases hwritten
    exact ⟨first, hfirst, rest, hrest, rfl⟩
  · rintro ⟨first, hfirst, rest, hrest, rfl⟩
    exact ⟨first, hfirst, rest, hrest, rfl⟩

theorem canonicalJsonEntries_cons_ok {key : PyKey} {value : PyValue}
    {entries : List (PyKey × PyValue)} {written : List (PyKey × Json)} :
    canonicalJsonEntries ((key, value) :: entries) = .ok written ↔
      ∃ first, canonicalJson value = .ok first ∧
        ∃ rest, canonicalJsonEntries entries = .ok rest ∧ written = (key, first) :: rest := by
  simp only [canonicalJsonEntries, except_bind_ok]
  constructor
  · rintro ⟨first, hfirst, rest, hrest, hwritten⟩
    cases hwritten
    exact ⟨first, hfirst, rest, hrest, rfl⟩
  · rintro ⟨first, hfirst, rest, hrest, rfl⟩
    exact ⟨first, hfirst, rest, hrest, rfl⟩

theorem canonicalJson_float_ok {text : String} {finite : Bool} {json : Json} :
    canonicalJson (.float text finite) = .ok json ↔
      finite = true ∧ isFloatText text = true ∧ json = .float text := by
  unfold canonicalJson
  by_cases hvalid : (finite && isFloatText text) = true
  · rw [if_pos hvalid]
    rw [Bool.and_eq_true] at hvalid
    simp [hvalid, eq_comm]
  · rw [if_neg hvalid]
    rw [Bool.and_eq_true, not_and] at hvalid
    simp only [reduceCtorEq, false_iff, not_and]
    exact fun hfinite htext => absurd htext (hvalid hfinite)

/-- Writing keeps the keys. -/
theorem keys_of_canonicalJsonEntries {entries : List (PyKey × PyValue)}
    {written : List (PyKey × Json)} (hwritten : canonicalJsonEntries entries = .ok written) :
    written.map Prod.fst = entries.map Prod.fst := by
  induction entries generalizing written with
  | nil =>
      cases hwritten
      rfl
  | cons entry entries ih =>
      obtain ⟨first, -, rest, hrest, rfl⟩ := canonicalJsonEntries_cons_ok.mp hwritten
      rw [List.map_cons, List.map_cons, ih hrest]

/-- The fields of a dict whose keys are strings. -/
theorem mapM_jsonText_of_strings {written : List (PyKey × Json)}
    (hkeys : ∀ entry ∈ written, entry.1.isStr = true) :
    (written.mapM fun entry =>
      match entry.1.jsonText with
      | some text => (.ok (text, entry.2) : Except PyException (String × Json))
      | Option.none => .error (typeError "keys must be str, int, float, bool or None")) =
        .ok (written.map fun entry => (entry.1.text, entry.2)) := by
  induction written with
  | nil => rfl
  | cons entry written ih =>
      obtain ⟨key, value⟩ := entry
      rw [List.forall_mem_cons] at hkeys
      rw [List.mapM_cons, ih hkeys.2]
      cases key with
      | str text => rfl
      | _ => cases hkeys.1

theorem sortKeys_of_strings {written : List (PyKey × Json)}
    (hkeys : ∀ entry ∈ written, entry.1.isStr = true) :
    sortKeys written =
      .ok ((written.map fun entry => (entry.1.text, entry.2)).insertionSort (textBefore · ·)) := by
  have hall : written.all (fun entry => entry.1.isStr) = true := by simpa using hkeys
  unfold sortKeys
  rw [if_pos hall]
  exact except_bind_ok.mpr ⟨_, mapM_jsonText_of_strings hkeys, rfl⟩

theorem strings_of_canonicalJsonEntries {entries : List (PyKey × PyValue)}
    {written : List (PyKey × Json)} (hwritten : canonicalJsonEntries entries = .ok written)
    (hkeys : ∀ entry ∈ entries, entry.1.isStr = true) :
    ∀ entry ∈ written, entry.1.isStr = true := by
  intro entry hentry
  have hkey : entry.1 ∈ entries.map Prod.fst := by
    rw [← keys_of_canonicalJsonEntries hwritten]
    exact List.mem_map_of_mem hentry
  obtain ⟨original, horiginal, hsame⟩ := List.mem_map.mp hkey
  rw [← hsame]
  exact hkeys original horiginal

/-- A dict with string keys can be written if and only if all of its values can. -/
theorem canonicalJson_dict_isOk_iff {entries : List (PyKey × PyValue)}
    (hkeys : ∀ entry ∈ entries, entry.1.isStr = true) :
    (∃ json, canonicalJson (.dict entries) = .ok json) ↔
      ∀ entry ∈ entries, ∃ json, canonicalJson entry.2 = .ok json := by
  have hentries : (∃ written, canonicalJsonEntries entries = .ok written) ↔
      ∀ entry ∈ entries, ∃ json, canonicalJson entry.2 = .ok json := by
    clear hkeys
    induction entries with
    | nil => simp [canonicalJsonEntries]
    | cons entry entries ih =>
        rw [List.forall_mem_cons, ← ih]
        constructor
        · rintro ⟨written, hwritten⟩
          obtain ⟨first, hfirst, rest, hrest, -⟩ := canonicalJsonEntries_cons_ok.mp hwritten
          exact ⟨⟨first, hfirst⟩, rest, hrest⟩
        · rintro ⟨⟨first, hfirst⟩, rest, hrest⟩
          exact ⟨_, canonicalJsonEntries_cons_ok.mpr ⟨first, hfirst, rest, hrest, rfl⟩⟩
  rw [← hentries]
  constructor
  · rintro ⟨json, hjson⟩
    obtain ⟨written, hwritten, -⟩ := canonicalJson_dict_ok.mp hjson
    exact ⟨written, hwritten⟩
  · rintro ⟨written, hwritten⟩
    exact ⟨_, canonicalJson_dict_ok.mpr ⟨written, hwritten, _,
      sortKeys_of_strings (strings_of_canonicalJsonEntries hwritten hkeys), rfl⟩⟩

/-- The fields of a written dict: its entries in the order of their keys. -/
theorem fields_of_canonicalJson {entries : List (PyKey × PyValue)}
    {written : List (PyKey × Json)} {fields : List (String × Json)}
    (hloaded : (PyValue.dict entries).Loaded)
    (hwritten : canonicalJsonEntries entries = .ok written)
    (hfields : sortKeys written = .ok fields) :
    fields = (written.map fun entry => (entry.1.text, entry.2)).insertionSort (textBefore · ·) ∧
      (written.map fun entry => entry.1.text).Nodup := by
  have hstrings := strings_of_canonicalJsonEntries hwritten fun entry hentry =>
    (PyValue.loadedEntries_iff.mp hloaded.2 entry hentry).1
  rw [sortKeys_of_strings hstrings] at hfields
  refine ⟨(Except.ok.inj hfields).symm, ?_⟩
  have hnodup : (written.map Prod.fst).Nodup := by
    rw [keys_of_canonicalJsonEntries hwritten]
    exact hloaded.1
  have htexts : written.map (fun entry => entry.1.text) =
      (written.map Prod.fst).map PyKey.text := by
    rw [List.map_map]
    rfl
  rw [htexts]
  refine List.Nodup.map_on ?_ hnodup
  intro first hfirst second hsecond heq
  obtain ⟨one, hone, rfl⟩ := List.mem_map.mp hfirst
  obtain ⟨other, hother, rfl⟩ := List.mem_map.mp hsecond
  exact PyKey.text_injOn (hstrings one hone) (hstrings other hother) heq

mutual

/-- Reading a written value back gives the value, its dicts in the order of their keys. -/
theorem canonicalJson_loads : ∀ {value : PyValue} {json : Json},
    value.Loaded → canonicalJson value = .ok json → json.Canonical ∧ json.loads = value.normal
  | .none, json, _, hjson => by
      cases hjson
      exact ⟨trivial, rfl⟩
  | .bool _, json, _, hjson => by
      cases hjson
      exact ⟨trivial, rfl⟩
  | .int _, json, _, hjson => by
      cases hjson
      exact ⟨trivial, rfl⟩
  | .str _, json, _, hjson => by
      cases hjson
      exact ⟨trivial, rfl⟩
  | .float text finite, json, hloaded, hjson => by
      obtain ⟨-, htext, rfl⟩ := canonicalJson_float_ok.mp hjson
      refine ⟨htext, ?_⟩
      have hfinite : finite = isFloatText text := hloaded
      subst hfinite
      rfl
  | .list items, json, hloaded, hjson => by
      obtain ⟨written, hwritten, rfl⟩ := canonicalJson_list_ok.mp hjson
      obtain ⟨hcanonical, hloads⟩ := canonicalJsonItems_loads hloaded hwritten
      exact ⟨hcanonical, congrArg PyValue.list hloads⟩
  | .dict entries, json, hloaded, hjson => by
      obtain ⟨written, hwritten, fields, hfields, rfl⟩ := canonicalJson_dict_ok.mp hjson
      obtain ⟨rfl, hnodup⟩ := fields_of_canonicalJson hloaded hwritten hfields
      obtain ⟨hcanonical, hloads⟩ := canonicalJsonEntries_loads hloaded.2 hwritten
      have hperm := List.perm_insertionSort (textBefore · ·)
        (written.map fun entry => (entry.1.text, entry.2))
      have hkeys : (((written.map fun entry => (entry.1.text, entry.2)).insertionSort
          (textBefore · ·)).map Prod.fst).Nodup := by
        rw [(hperm.map Prod.fst).nodup_iff, List.map_map]
        exact hnodup
      refine ⟨⟨List.pairwise_insertionSort _ _, hkeys, ?_⟩, ?_⟩
      · rw [Json.canonicalFields_iff]
        intro field hfield
        obtain ⟨entry, hentry, rfl⟩ := List.mem_map.mp (hperm.subset hfield)
        exact hcanonical entry hentry
      · have hread : Json.loadsFields ((written.map fun entry =>
            (entry.1.text, entry.2)).insertionSort (textBefore · ·)) =
              (PyValue.normalEntries entries).insertionSort (keyBefore · ·) := by
          rw [loadsFields_eq_map, List.map_insertionSort (textBefore · ·) (keyBefore · ·) _ _
            (fun _ _ _ _ => Iff.rfl), List.map_map, ← hloads]
          rfl
        rw [Json.loads, dictUpdate_of_nodup (nodup_keys_loadsFields hkeys), List.nil_append, hread,
          PyValue.normal]

theorem canonicalJsonItems_loads : ∀ {items : List PyValue} {written : List Json},
    PyValue.LoadedItems items → canonicalJsonItems items = .ok written →
      Json.CanonicalItems written ∧ Json.loadsItems written = PyValue.normalItems items
  | [], written, _, hwritten => by
      cases hwritten
      exact ⟨trivial, rfl⟩
  | item :: items, written, hloaded, hwritten => by
      obtain ⟨first, hfirst, rest, hrest, rfl⟩ := canonicalJsonItems_cons_ok.mp hwritten
      obtain ⟨hcanonical, hloads⟩ := canonicalJson_loads hloaded.1 hfirst
      obtain ⟨hcanonicalRest, hloadsRest⟩ := canonicalJsonItems_loads hloaded.2 hrest
      refine ⟨⟨hcanonical, hcanonicalRest⟩, ?_⟩
      rw [Json.loadsItems, PyValue.normalItems, hloads, hloadsRest]

theorem canonicalJsonEntries_loads :
    ∀ {entries : List (PyKey × PyValue)} {written : List (PyKey × Json)},
      PyValue.LoadedEntries entries → canonicalJsonEntries entries = .ok written →
        (∀ entry ∈ written, entry.2.Canonical) ∧
          written.map (fun entry => (PyKey.str entry.1.text, entry.2.loads)) =
            PyValue.normalEntries entries
  | [], written, _, hwritten => by
      cases hwritten
      exact ⟨by simp, rfl⟩
  | (key, value) :: entries, written, hloaded, hwritten => by
      obtain ⟨first, hfirst, rest, hrest, rfl⟩ := canonicalJsonEntries_cons_ok.mp hwritten
      obtain ⟨hstring, hvalue, hentries⟩ := hloaded
      obtain ⟨hcanonical, hloads⟩ := canonicalJson_loads hvalue hfirst
      obtain ⟨hcanonicalRest, hloadsRest⟩ := canonicalJsonEntries_loads hentries hrest
      refine ⟨List.forall_mem_cons.mpr ⟨hcanonical, hcanonicalRest⟩, ?_⟩
      have hkey : PyKey.str key.text = key := PyKey.text_injOn rfl hstring rfl
      rw [List.map_cons, PyValue.normalEntries, hloads, hloadsRest, hkey]

end

mutual

/-- A canonical tree is what is written for the value read from it. -/
theorem Json.canonicalJson_loads : ∀ {json : Json},
    json.Canonical → canonicalJson json.loads = .ok json
  | .null, _ => rfl
  | .bool _, _ => rfl
  | .int _, _ => rfl
  | .str _, _ => rfl
  | .float text, hcanonical =>
      canonicalJson_float_ok.mpr ⟨hcanonical, hcanonical, rfl⟩
  | .arr items, hcanonical =>
      canonicalJson_list_ok.mpr ⟨items, canonicalJsonItems_loads hcanonical, rfl⟩
  | .obj fields, hcanonical => by
      obtain ⟨hsorted, hnodup, hfields⟩ := hcanonical
      rw [Json.loads, dictUpdate_of_nodup (nodup_keys_loadsFields hnodup), List.nil_append]
      refine canonicalJson_dict_ok.mpr ⟨_, canonicalJsonFields_loads hfields, fields, ?_, rfl⟩
      have hstrings : ∀ entry ∈ fields.map (fun field => (PyKey.str field.1, field.2)),
          entry.1.isStr = true := by
        intro entry hentry
        obtain ⟨field, -, rfl⟩ := List.mem_map.mp hentry
        rfl
      rw [sortKeys_of_strings hstrings, List.map_map]
      change Except.ok ((fields.map id).insertionSort _) = _
      rw [List.map_id, hsorted.insertionSort_eq]

theorem Json.canonicalJsonItems_loads : ∀ {items : List Json},
    Json.CanonicalItems items → canonicalJsonItems (Json.loadsItems items) = .ok items
  | [], _ => rfl
  | _ :: _, hcanonical =>
      canonicalJsonItems_cons_ok.mpr ⟨_, canonicalJson_loads hcanonical.1, _,
        canonicalJsonItems_loads hcanonical.2, rfl⟩

theorem Json.canonicalJsonFields_loads : ∀ {fields : List (String × Json)},
    Json.CanonicalFields fields →
      canonicalJsonEntries (Json.loadsFields fields) =
        .ok (fields.map fun field => (PyKey.str field.1, field.2))
  | [], _ => rfl
  | (_, _) :: _, hcanonical =>
      canonicalJsonEntries_cons_ok.mpr ⟨_, canonicalJson_loads hcanonical.1, _,
        canonicalJsonFields_loads hcanonical.2, rfl⟩

end

/-- **Canonical JSON and equality.** Values read from JSON that have one canonical text are
equal. -/
theorem normal_eq_of_canonicalJson {first second : PyValue} {json : Json}
    (hfirst : first.Loaded) (hsecond : second.Loaded) (hjson : canonicalJson first = .ok json)
    (hother : canonicalJson second = .ok json) : first.normal = second.normal := by
  rw [← (canonicalJson_loads hfirst hjson).2, (canonicalJson_loads hsecond hother).2]

def SameText (first second : PyValue) : Prop :=
  ∃ json, canonicalJson first = .ok json ∧ canonicalJson second = .ok json

theorem forall₂_of_written : ∀ {first second : List (PyKey × PyValue)}
    {writtenFirst writtenSecond : List (PyKey × Json)},
    canonicalJsonEntries first = .ok writtenFirst →
      canonicalJsonEntries second = .ok writtenSecond →
        writtenFirst.map (·.2) = writtenSecond.map (·.2) →
          List.Forall₂ (fun one other => SameText one.2 other.2) first second
  | [], [], _, _, _, _, _ => .nil
  | [], (_, _) :: _, _, _, hfirst, hsecond, hsame => by
      obtain ⟨json, -, rest, -, rfl⟩ := canonicalJsonEntries_cons_ok.mp hsecond
      cases hfirst
      cases hsame
  | (_, _) :: _, [], _, _, hfirst, hsecond, hsame => by
      obtain ⟨json, -, rest, -, rfl⟩ := canonicalJsonEntries_cons_ok.mp hfirst
      cases hsecond
      cases hsame
  | (_, _) :: _, (_, _) :: _, _, _, hfirst, hsecond, hsame => by
      obtain ⟨json, hjson, rest, hrest, rfl⟩ := canonicalJsonEntries_cons_ok.mp hfirst
      obtain ⟨other, hother, others, hothers, rfl⟩ := canonicalJsonEntries_cons_ok.mp hsecond
      obtain ⟨rfl, htail⟩ := List.cons.inj hsame
      exact .cons ⟨json, hjson, hother⟩ (forall₂_of_written hrest hothers htail)

/-- Dicts with the same keys that have one canonical text have one canonical text at every key. -/
theorem forall₂_of_canonicalJson_dict {first second : List (PyKey × PyValue)} {json : Json}
    (hfirst : (PyValue.dict first).Loaded) (hsecond : (PyValue.dict second).Loaded)
    (hkeys : first.map Prod.fst = second.map Prod.fst)
    (hjson : canonicalJson (.dict first) = .ok json)
    (hother : canonicalJson (.dict second) = .ok json) :
    List.Forall₂ (fun one other => SameText one.2 other.2) first second := by
  obtain ⟨written, hwritten, fields, hfields, rfl⟩ := canonicalJson_dict_ok.mp hjson
  obtain ⟨others, hothers, otherFields, hotherFields, hsame⟩ := canonicalJson_dict_ok.mp hother
  cases hsame
  obtain ⟨hsorted, hnodup⟩ := fields_of_canonicalJson hfirst hwritten hfields
  obtain ⟨hotherSorted, -⟩ := fields_of_canonicalJson hsecond hothers hotherFields
  have hperm : (written.map fun entry => (entry.1.text, entry.2)).Perm
      (others.map fun entry => (entry.1.text, entry.2)) := by
    have hleft := List.perm_insertionSort (textBefore · ·)
      (written.map fun entry => (entry.1.text, entry.2))
    have hright := List.perm_insertionSort (textBefore · ·)
      (others.map fun entry => (entry.1.text, entry.2))
    rw [← hsorted] at hleft
    rw [← hotherSorted] at hright
    exact hleft.symm.trans hright
  have htexts : (written.map fun entry => (entry.1.text, entry.2)).map Prod.fst =
      (others.map fun entry => (entry.1.text, entry.2)).map Prod.fst := by
    have hwrittenKeys : written.map Prod.fst = others.map Prod.fst := by
      rw [keys_of_canonicalJsonEntries hwritten, keys_of_canonicalJsonEntries hothers, hkeys]
    have hmapped := congrArg (List.map PyKey.text) hwrittenKeys
    rw [List.map_map, List.map_map] at hmapped ⊢
    exact hmapped
  have hequal := eq_of_perm_of_keys hperm htexts (by rw [List.map_map]; exact hnodup)
  have hvalues := congrArg (List.map Prod.snd) hequal
  rw [List.map_map, List.map_map] at hvalues
  exact forall₂_of_written hwritten hothers hvalues

/-! ### Lookups -/

theorem dictGet_eq_some {κ ν : Type} [DecidableEq κ] {entries : List (κ × ν)}
    (hnodup : (entries.map Prod.fst).Nodup) {key : κ} {value : ν} :
    dictGet entries key = some value ↔ (key, value) ∈ entries := by
  unfold dictGet
  constructor
  · intro hfound
    obtain ⟨entry, hentry, rfl⟩ := Option.map_eq_some_iff.mp hfound
    have hkey : entry.1 = key := by simpa using List.find?_some hentry
    rw [← hkey]
    exact List.mem_of_find?_eq_some hentry
  · intro hmem
    obtain ⟨entry, hentry⟩ : ∃ entry, entries.find? (fun entry => entry.1 = key) = some entry :=
      Option.isSome_iff_exists.mp (List.find?_isSome.mpr ⟨_, hmem, by simp⟩)
    have hkey : entry.1 = key := by simpa using List.find?_some hentry
    have hsame := List.inj_on_of_nodup_map hnodup (List.mem_of_find?_eq_some hentry) hmem hkey
    rw [hentry, hsame]
    rfl

end OdooMcp
