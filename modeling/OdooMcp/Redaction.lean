import OdooMcp.CanonicalJson

/-!
# Redaction

On a value that was read from JSON, redaction replaces what stands under the sensitive keys and
nothing else. A redacted value that is written and read back is redacted already.
-/

namespace OdooMcp

def redactedText : PyValue := .str "[REDACTED]"

namespace PyValue

mutual

/-- The value with `filler` under its sensitive keys. -/
def conceal (filler : PyValue) : PyValue → PyValue
  | .list items => .list (concealItems filler items)
  | .dict entries => .dict (concealEntries filler entries)
  | value => value

def concealItems (filler : PyValue) : List PyValue → List PyValue
  | [] => []
  | item :: items => conceal filler item :: concealItems filler items

def concealEntries (filler : PyValue) : List (PyKey × PyValue) → List (PyKey × PyValue)
  | [] => []
  | (key, value) :: entries =>
      (key, if isSensitive key.text then filler else conceal filler value) ::
        concealEntries filler entries

end

mutual

def hasSensitiveKey : PyValue → Bool
  | .list items => hasSensitiveKeyItems items
  | .dict entries => hasSensitiveKeyEntries entries
  | _ => false

def hasSensitiveKeyItems : List PyValue → Bool
  | [] => false
  | item :: items => hasSensitiveKey item || hasSensitiveKeyItems items

def hasSensitiveKeyEntries : List (PyKey × PyValue) → Bool
  | [] => false
  | (key, value) :: entries =>
      isSensitive key.text || hasSensitiveKey value || hasSensitiveKeyEntries entries

end

def concealEntry (filler : PyValue) (key : PyKey) (value : PyValue) : PyValue :=
  if isSensitive key.text then filler else conceal filler value

theorem concealEntries_eq_map (filler : PyValue) (entries : List (PyKey × PyValue)) :
    concealEntries filler entries =
      entries.map fun entry => (entry.1, concealEntry filler entry.1 entry.2) := by
  induction entries with
  | nil => rfl
  | cons entry entries ih => rw [concealEntries, ih, List.map_cons, concealEntry]

theorem hasSensitiveKeyEntries_iff {entries : List (PyKey × PyValue)} :
    hasSensitiveKeyEntries entries = true ↔
      ∃ entry ∈ entries, isSensitive entry.1.text = true ∨ hasSensitiveKey entry.2 = true := by
  induction entries with
  | nil => simp [hasSensitiveKeyEntries]
  | cons entry entries ih => simp [hasSensitiveKeyEntries, ih]

/-! ### Redaction conceals -/

theorem redactEntries_eq (collected entries : List (PyKey × PyValue)) :
    redactEntries collected entries = dictUpdate collected
      (entries.map fun entry => (.str entry.1.text,
        if isSensitive entry.1.text then redactedText else redactSensitive entry.2)) := by
  induction entries generalizing collected with
  | nil => rfl
  | cons entry entries ih =>
      rw [redactEntries, ih]
      rfl

theorem keys_concealEntries (filler : PyValue) (entries : List (PyKey × PyValue)) :
    (concealEntries filler entries).map Prod.fst = entries.map Prod.fst := by
  rw [concealEntries_eq_map, List.map_map]
  rfl

mutual

theorem redactSensitive_eq_conceal : ∀ {value : PyValue},
    value.Loaded → redactSensitive value = conceal redactedText value
  | .none, _ => rfl
  | .bool _, _ => rfl
  | .int _, _ => rfl
  | .float _ _, _ => rfl
  | .str _, _ => rfl
  | .list _, hloaded => congrArg PyValue.list (redactItems_eq_conceal hloaded)
  | .dict entries, hloaded => by
      have hentries := redactMapped_eq_conceal hloaded.2
      have hnodup : ((entries.map fun entry => (PyKey.str entry.1.text,
          if isSensitive entry.1.text then redactedText else redactSensitive entry.2)).map
            Prod.fst).Nodup := by
        rw [hentries, keys_concealEntries]
        exact hloaded.1
      rw [redactSensitive, redactEntries_eq, dictUpdate_of_nodup hnodup, List.nil_append, hentries,
        conceal]

theorem redactItems_eq_conceal : ∀ {items : List PyValue},
    LoadedItems items → redactItems items = concealItems redactedText items
  | [], _ => rfl
  | _ :: _, hloaded => by
      rw [redactItems, concealItems, redactSensitive_eq_conceal hloaded.1,
        redactItems_eq_conceal hloaded.2]

theorem redactMapped_eq_conceal : ∀ {entries : List (PyKey × PyValue)},
    LoadedEntries entries →
      (entries.map fun entry => (PyKey.str entry.1.text,
        if isSensitive entry.1.text then redactedText else redactSensitive entry.2)) =
          concealEntries redactedText entries
  | [], _ => rfl
  | (key, value) :: _, hloaded => by
      have hkey : PyKey.str key.text = key := PyKey.text_injOn rfl hloaded.1 rfl
      rw [List.map_cons, concealEntries, redactSensitive_eq_conceal hloaded.2.1,
        redactMapped_eq_conceal hloaded.2.2, hkey]

end

/-! ### Concealing again -/

mutual

theorem conceal_conceal (filler other : PyValue) : ∀ value : PyValue,
    conceal filler (conceal other value) = conceal filler value
  | .none => rfl
  | .bool _ => rfl
  | .int _ => rfl
  | .float _ _ => rfl
  | .str _ => rfl
  | .tuple _ => rfl
  | .other _ => rfl
  | .list items => congrArg PyValue.list (concealItems_conceal filler other items)
  | .dict entries => congrArg PyValue.dict (concealEntries_conceal filler other entries)

theorem concealItems_conceal (filler other : PyValue) : ∀ items : List PyValue,
    concealItems filler (concealItems other items) = concealItems filler items
  | [] => rfl
  | item :: items => by
      rw [concealItems, concealItems, concealItems, conceal_conceal filler other item,
        concealItems_conceal filler other items]

theorem concealEntries_conceal (filler other : PyValue) : ∀ entries : List (PyKey × PyValue),
    concealEntries filler (concealEntries other entries) = concealEntries filler entries
  | [] => rfl
  | (key, value) :: entries => by
      rw [concealEntries, concealEntries, concealEntries,
        concealEntries_conceal filler other entries]
      by_cases hkey : isSensitive key.text = true
      · simp only [if_pos hkey]
      · simp only [if_neg hkey, conceal_conceal filler other value]

end

mutual

theorem conceal_loaded {filler : PyValue} (hfiller : filler.Loaded) : ∀ {value : PyValue},
    value.Loaded → (conceal filler value).Loaded
  | .none, _ => trivial
  | .bool _, _ => trivial
  | .int _, _ => trivial
  | .float _ _, hloaded => hloaded
  | .str _, _ => trivial
  | .list _, hloaded => concealItems_loaded hfiller hloaded
  | .dict entries, hloaded => by
      refine ⟨?_, concealEntries_loaded hfiller hloaded.2⟩
      rw [keys_concealEntries]
      exact hloaded.1

theorem concealItems_loaded {filler : PyValue} (hfiller : filler.Loaded) :
    ∀ {items : List PyValue}, LoadedItems items → LoadedItems (concealItems filler items)
  | [], _ => trivial
  | _ :: _, hloaded =>
      ⟨conceal_loaded hfiller hloaded.1, concealItems_loaded hfiller hloaded.2⟩

theorem concealEntries_loaded {filler : PyValue} (hfiller : filler.Loaded) :
    ∀ {entries : List (PyKey × PyValue)},
      LoadedEntries entries → LoadedEntries (concealEntries filler entries)
  | [], _ => trivial
  | (key, _) :: _, hloaded => by
      refine ⟨hloaded.1, ?_, concealEntries_loaded hfiller hloaded.2.2⟩
      split
      · exact hfiller
      · exact conceal_loaded hfiller hloaded.2.1

end

mutual

theorem conceal_of_clear (filler : PyValue) : ∀ {value : PyValue},
    hasSensitiveKey value = false → conceal filler value = value
  | .none, _ => rfl
  | .bool _, _ => rfl
  | .int _, _ => rfl
  | .float _ _, _ => rfl
  | .str _, _ => rfl
  | .tuple _, _ => rfl
  | .other _, _ => rfl
  | .list _, hclear => congrArg PyValue.list (concealItems_of_clear filler hclear)
  | .dict _, hclear => congrArg PyValue.dict (concealEntries_of_clear filler hclear)

theorem concealItems_of_clear (filler : PyValue) : ∀ {items : List PyValue},
    hasSensitiveKeyItems items = false → concealItems filler items = items
  | [], _ => rfl
  | _ :: _, hclear => by
      rw [hasSensitiveKeyItems, Bool.or_eq_false_iff] at hclear
      rw [concealItems, conceal_of_clear filler hclear.1, concealItems_of_clear filler hclear.2]

theorem concealEntries_of_clear (filler : PyValue) : ∀ {entries : List (PyKey × PyValue)},
    hasSensitiveKeyEntries entries = false → concealEntries filler entries = entries
  | [], _ => rfl
  | (key, _) :: _, hclear => by
      rw [hasSensitiveKeyEntries, Bool.or_eq_false_iff, Bool.or_eq_false_iff] at hclear
      have hkey : ¬isSensitive key.text = true := by simp [hclear.1.1]
      rw [concealEntries, if_neg hkey, conceal_of_clear filler hclear.1.2,
        concealEntries_of_clear filler hclear.2]

end

mutual

theorem hasSensitiveKey_conceal (filler : PyValue) : ∀ value : PyValue,
    hasSensitiveKey (conceal filler value) = hasSensitiveKey value
  | .none => rfl
  | .bool _ => rfl
  | .int _ => rfl
  | .float _ _ => rfl
  | .str _ => rfl
  | .tuple _ => rfl
  | .other _ => rfl
  | .list items => hasSensitiveKeyItems_conceal filler items
  | .dict entries => hasSensitiveKeyEntries_conceal filler entries

theorem hasSensitiveKeyItems_conceal (filler : PyValue) : ∀ items : List PyValue,
    hasSensitiveKeyItems (concealItems filler items) = hasSensitiveKeyItems items
  | [] => rfl
  | item :: items => by
      rw [concealItems, hasSensitiveKeyItems, hasSensitiveKeyItems,
        hasSensitiveKey_conceal filler item,
        hasSensitiveKeyItems_conceal filler items]

theorem hasSensitiveKeyEntries_conceal (filler : PyValue) :
    ∀ entries : List (PyKey × PyValue),
      hasSensitiveKeyEntries (concealEntries filler entries) = hasSensitiveKeyEntries entries
  | [] => rfl
  | (key, value) :: entries => by
      rw [concealEntries, hasSensitiveKeyEntries, hasSensitiveKeyEntries,
        hasSensitiveKeyEntries_conceal filler entries]
      by_cases hkey : isSensitive key.text = true
      · simp only [hkey, Bool.true_or]
      · rw [if_neg hkey, hasSensitiveKey_conceal filler value]

end

mutual

/-- What stands under a sensitive key shows. -/
theorem conceal_ne {filler other : PyValue} (hne : filler ≠ other) : ∀ {value : PyValue},
    hasSensitiveKey value = true → conceal filler value ≠ conceal other value
  | .none, hkey => by cases hkey
  | .bool _, hkey => by cases hkey
  | .int _, hkey => by cases hkey
  | .float _ _, hkey => by cases hkey
  | .str _, hkey => by cases hkey
  | .tuple _, hkey => by cases hkey
  | .other _, hkey => by cases hkey
  | .list _, hkey => fun heq => concealItems_ne hne hkey (PyValue.list.inj heq)
  | .dict _, hkey => fun heq => concealEntries_ne hne hkey (PyValue.dict.inj heq)

theorem concealItems_ne {filler other : PyValue} (hne : filler ≠ other) :
    ∀ {items : List PyValue}, hasSensitiveKeyItems items = true →
      concealItems filler items ≠ concealItems other items
  | [], hkey => by cases hkey
  | _ :: _, hkey => by
      intro heq
      obtain ⟨hfirst, hrest⟩ := List.cons.inj heq
      rw [hasSensitiveKeyItems, Bool.or_eq_true] at hkey
      rcases hkey with hitem | hitems
      · exact conceal_ne hne hitem hfirst
      · exact concealItems_ne hne hitems hrest

theorem concealEntries_ne {filler other : PyValue} (hne : filler ≠ other) :
    ∀ {entries : List (PyKey × PyValue)}, hasSensitiveKeyEntries entries = true →
      concealEntries filler entries ≠ concealEntries other entries
  | [], hkey => by cases hkey
  | (key, _) :: _, hkey => by
      intro heq
      obtain ⟨hfirst, hrest⟩ := List.cons.inj heq
      have hvalue := congrArg Prod.snd hfirst
      rw [hasSensitiveKeyEntries, Bool.or_eq_true, Bool.or_eq_true] at hkey
      rcases hkey with (hsensitive | hinner) | hentries
      · simp only [if_pos hsensitive] at hvalue
        exact hne hvalue
      · by_cases hsensitive : isSensitive key.text = true
        · simp only [if_pos hsensitive] at hvalue
          exact hne hvalue
        · simp only [if_neg hsensitive] at hvalue
          exact conceal_ne hne hinner hvalue
      · exact concealEntries_ne hne hentries hrest

end

/-! ### Normal forms -/

mutual

theorem conceal_normal {filler : PyValue} (hfiller : filler.normal = filler) :
    ∀ value : PyValue, conceal filler value.normal = (conceal filler value).normal
  | .none => rfl
  | .bool _ => rfl
  | .int _ => rfl
  | .float _ _ => rfl
  | .str _ => rfl
  | .tuple _ => rfl
  | .other _ => rfl
  | .list items => congrArg PyValue.list (concealItems_normal hfiller items)
  | .dict entries => by
      have hentries := concealEntries_normal hfiller entries
      simp only [normal, conceal]
      rw [← hentries, concealEntries_eq_map, concealEntries_eq_map,
        List.map_insertionSort (keyBefore · ·) (keyBefore · ·)
          (fun entry => (entry.1, concealEntry filler entry.1 entry.2)) _ fun _ _ _ _ => Iff.rfl]

theorem concealItems_normal {filler : PyValue} (hfiller : filler.normal = filler) :
    ∀ items : List PyValue,
      concealItems filler (normalItems items) = normalItems (concealItems filler items)
  | [] => rfl
  | item :: items => by
      rw [normalItems, concealItems, concealItems, normalItems, conceal_normal hfiller item,
        concealItems_normal hfiller items]

theorem concealEntries_normal {filler : PyValue} (hfiller : filler.normal = filler) :
    ∀ entries : List (PyKey × PyValue),
      concealEntries filler (normalEntries entries) =
        normalEntries (concealEntries filler entries)
  | [] => rfl
  | (key, value) :: entries => by
      rw [normalEntries, concealEntries, concealEntries, normalEntries,
        concealEntries_normal hfiller entries]
      by_cases hkey : isSensitive key.text = true
      · rw [if_pos hkey, if_pos hkey, hfiller]
      · rw [if_neg hkey, if_neg hkey, conceal_normal hfiller value]

end

mutual

theorem hasSensitiveKey_normal : ∀ value : PyValue,
    hasSensitiveKey value.normal = hasSensitiveKey value
  | .none => rfl
  | .bool _ => rfl
  | .int _ => rfl
  | .float _ _ => rfl
  | .str _ => rfl
  | .tuple _ => rfl
  | .other _ => rfl
  | .list items => hasSensitiveKeyItems_normal items
  | .dict entries => by
      have hentries := hasSensitiveKeyEntries_normal entries
      have hperm := List.perm_insertionSort (keyBefore · ·) (normalEntries entries)
      rw [normal, hasSensitiveKey, hasSensitiveKey, ← hentries, Bool.eq_iff_iff,
        hasSensitiveKeyEntries_iff, hasSensitiveKeyEntries_iff]
      constructor
      · rintro ⟨entry, hentry, hsensitive⟩
        exact ⟨entry, hperm.subset hentry, hsensitive⟩
      · rintro ⟨entry, hentry, hsensitive⟩
        exact ⟨entry, hperm.symm.subset hentry, hsensitive⟩

theorem hasSensitiveKeyItems_normal : ∀ items : List PyValue,
    hasSensitiveKeyItems (normalItems items) = hasSensitiveKeyItems items
  | [] => rfl
  | item :: items => by
      rw [normalItems, hasSensitiveKeyItems, hasSensitiveKeyItems, hasSensitiveKey_normal item,
        hasSensitiveKeyItems_normal items]

theorem hasSensitiveKeyEntries_normal : ∀ entries : List (PyKey × PyValue),
    hasSensitiveKeyEntries (normalEntries entries) = hasSensitiveKeyEntries entries
  | [] => rfl
  | (_, value) :: entries => by
      rw [normalEntries, hasSensitiveKeyEntries, hasSensitiveKeyEntries,
        hasSensitiveKey_normal value, hasSensitiveKeyEntries_normal entries]

end

end PyValue

/-! ### Stored values -/

open PyValue

theorem written_of_mem {entries : List (PyKey × PyValue)} {written : List (PyKey × Json)}
    (hwritten : canonicalJsonEntries entries = .ok written) {entry : PyKey × PyValue}
    (hentry : entry ∈ entries) : ∃ json, canonicalJson entry.2 = .ok json := by
  induction entries generalizing written with
  | nil => cases hentry
  | cons first entries ih =>
      obtain ⟨json, hjson, rest, hrest, -⟩ := canonicalJsonEntries_cons_ok.mp hwritten
      rcases List.mem_cons.mp hentry with rfl | hmem
      · exact ⟨json, hjson⟩
      · exact ih hrest hmem

mutual

/-- Redaction leaves a value that `json.loads` could have read, if it can be written at all. -/
theorem redactSensitive_loaded : ∀ {value : PyValue} {json : Json},
    canonicalJson (redactSensitive value) = .ok json →
      (redactSensitive value).Loaded ∧
        conceal redactedText (redactSensitive value) = redactSensitive value
  | .none, _, _ => ⟨trivial, rfl⟩
  | .bool _, _, _ => ⟨trivial, rfl⟩
  | .int _, _, _ => ⟨trivial, rfl⟩
  | .float _ _, _, hjson => by
      obtain ⟨rfl, htext, -⟩ := canonicalJson_float_ok.mp hjson
      exact ⟨htext.symm, rfl⟩
  | .str _, _, _ => ⟨trivial, rfl⟩
  | .other _, _, hjson => by cases hjson
  | .list _, _, hjson => by
      obtain ⟨written, hwritten, -⟩ := canonicalJson_list_ok.mp hjson
      obtain ⟨hloaded, hconcealed⟩ := redactItems_loaded hwritten
      exact ⟨hloaded, congrArg PyValue.list hconcealed⟩
  | .tuple _, _, hjson => by
      obtain ⟨written, hwritten, -⟩ := canonicalJson_list_ok.mp hjson
      obtain ⟨hloaded, hconcealed⟩ := redactItems_loaded hwritten
      exact ⟨hloaded, congrArg PyValue.list hconcealed⟩
  | .dict entries, _, hjson => by
      obtain ⟨written, hwritten, -⟩ := canonicalJson_dict_ok.mp hjson
      have hentries : ∀ entry ∈ redactEntries [] entries, entry.1.isStr = true ∧
          entry.2.Loaded ∧ concealEntry redactedText entry.1 entry.2 = entry.2 := by
        intro entry hentry
        obtain ⟨first, hfirst⟩ := written_of_mem hwritten hentry
        rw [redactEntries_eq] at hentry
        obtain ⟨original, horiginal, rfl⟩ :=
          List.mem_map.mp ((mem_of_mem_dictUpdate hentry).resolve_left List.not_mem_nil)
        have hkey : (PyKey.str original.1.text).text = original.1.text := rfl
        by_cases hsensitive : isSensitive original.1.text = true
        · simp only [concealEntry, hkey, if_pos hsensitive]
          exact ⟨rfl, trivial, trivial⟩
        · simp only [concealEntry, hkey, if_neg hsensitive] at hfirst ⊢
          exact ⟨rfl, redactEntries_loaded original horiginal hfirst⟩
      refine ⟨⟨?_, loadedEntries_iff.mpr fun entry hentry =>
        ⟨(hentries entry hentry).1, (hentries entry hentry).2.1⟩⟩, ?_⟩
      · rw [redactEntries_eq]
        exact nodup_keys_dictUpdate List.nodup_nil
      · rw [redactSensitive, conceal, concealEntries_eq_map]
        refine congrArg PyValue.dict ?_
        calc (redactEntries [] entries).map
              (fun entry => (entry.1, concealEntry redactedText entry.1 entry.2)) =
            (redactEntries [] entries).map id :=
              List.map_congr_left fun entry hentry => by
                rw [(hentries entry hentry).2.2]
                rfl
          _ = redactEntries [] entries := List.map_id _

theorem redactItems_loaded : ∀ {items : List PyValue} {written : List Json},
    canonicalJsonItems (redactItems items) = .ok written →
      LoadedItems (redactItems items) ∧
        concealItems redactedText (redactItems items) = redactItems items
  | [], _, _ => ⟨trivial, rfl⟩
  | _ :: _, _, hwritten => by
      obtain ⟨first, hfirst, rest, hrest, -⟩ := canonicalJsonItems_cons_ok.mp hwritten
      obtain ⟨hloaded, hconcealed⟩ := redactSensitive_loaded hfirst
      obtain ⟨hloadedRest, hconcealedRest⟩ := redactItems_loaded hrest
      refine ⟨⟨hloaded, hloadedRest⟩, ?_⟩
      rw [redactItems, concealItems, hconcealed, hconcealedRest]

theorem redactEntries_loaded : ∀ {entries : List (PyKey × PyValue)}, ∀ entry ∈ entries,
    ∀ {json : Json}, canonicalJson (redactSensitive entry.2) = .ok json →
      (redactSensitive entry.2).Loaded ∧
        conceal redactedText (redactSensitive entry.2) = redactSensitive entry.2
  | [], _, hentry, _, _ => absurd hentry List.not_mem_nil
  | (key, value) :: entries, entry, hentry, _, hjson => by
      rcases List.mem_cons.mp hentry with rfl | hrest
      · exact redactSensitive_loaded hjson
      · exact redactEntries_loaded entry hrest hjson

end

/-- **Redaction is stable.** What is stored for a value is stored again for the value read back. -/
theorem canonicalJson_redact_loads {value : PyValue} {json : Json}
    (hjson : canonicalJson (redactSensitive value) = .ok json) :
    json.Canonical ∧ canonicalJson (redactSensitive json.loads) = .ok json := by
  obtain ⟨hloaded, hconcealed⟩ := redactSensitive_loaded hjson
  obtain ⟨hcanonical, hloads⟩ := canonicalJson_loads hloaded hjson
  refine ⟨hcanonical, ?_⟩
  have hredacted : redactSensitive json.loads = json.loads := by
    rw [redactSensitive_eq_conceal json.loaded_loads, hloads, conceal_normal rfl, hconcealed]
  rw [hredacted]
  exact Json.canonicalJson_loads hcanonical

end OdooMcp
