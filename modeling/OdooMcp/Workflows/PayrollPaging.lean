import OdooMcp.Workflows.PayrollEvidence

/-!
# Pages of payroll evidence

The evidence workflows make pages of their own of what they have collected. Their cursors are bound
to the request and to the ids and write dates of all records that were read for it.
-/

namespace OdooMcp

open Effect Pagination

namespace PayrollEvidence

/-! ### Pages of a workflow -/

/-- `id` and `write_date` of a record, if they are an int and a datetime. -/
structure AnchorRecord where
  identifier : Option Int
  writeDate : Option DateTime

def anchorBefore (first second : String × Int × String) : Bool :=
  first.1 < second.1 || (first.1 = second.1 &&
    (first.2.1 < second.2.1 || (first.2.1 = second.2.1 && first.2.2 ≤ second.2.2)))

def anchorOf (record : String × AnchorRecord) : Except PyException (String × Int × String) := do
  let writeDate ← orRaise record.2.writeDate malformedSource
  let identifier ← orRaise record.2.identifier malformedSource
  return (record.1, identifier, writeDate.isoformat)

def anchorRecords (values : List (String × List AnchorRecord)) : List (String × AnchorRecord) :=
  values.flatMap fun entry => entry.2.map fun record => (entry.1, record)

/-- `_anchors` -/
def anchors (values : List (String × List AnchorRecord)) :
    Except PyException (List (String × Int × String)) := do
  let found ← (anchorRecords values).mapM anchorOf
  return found.insertionSort (anchorBefore · ·)

def bindingPayload (binding : PyValue) (anchors : List (String × Int × String)) : PyValue :=
  .dict
    [(.str "binding", binding),
      (.str "anchors", .list (anchors.map fun anchor =>
        .list [.str anchor.1, .int anchor.2.1, .str anchor.2.2]))]

section Paginate

variable (sha256 : String → String)

/-- `_fingerprint`. The binding is a dumped request, in which there are no floats. -/
def fingerprint (binding : PyValue) (anchors : List (String × Int × String)) :
    Except PyException String := do
  let canonical ← canonicalJson (bindingPayload binding anchors)
  return String.ofList ((sha256 canonical.text).toList.take 20)

/-- `_cursor_offset`, which does what `_decode_cursor` of the reader does. -/
def cursorOffset : Option String → String → Except PyException Nat := decodePayrollCursor

/-- `_paginate` -/
def paginate {β : Type} (items : List β) (limit : Nat) (cursor : Option String)
    (binding : PyValue) (anchors : List (String × Int × String)) :
    Except PyException (List β × Option String) := do
  let fingerprint ← fingerprint sha256 binding anchors
  let offset ← cursorOffset cursor fingerprint
  ensure (offset ≤ items.length)
    (payrollError .invalidInput "The Payroll pagination cursor is outside this result."
      "Restart the Payroll request without a cursor.")
  let selected := (items.drop offset).take limit
  let nextOffset := offset + selected.length
  return (selected,
    if nextOffset < items.length then some (encodePayrollCursor fingerprint nextOffset) else none)

end Paginate

/-! ### Anchors -/

/-- A record is known from its anchor. -/
theorem anchorOf_inj {first second : String × AnchorRecord} {anchor : String × Int × String}
    (hvalid : ∀ moment ∈ first.2.writeDate, moment.Valid)
    (hvalid' : ∀ moment ∈ second.2.writeDate, moment.Valid)
    (hfirst : anchorOf first = .ok anchor) (hsecond : anchorOf second = .ok anchor) :
    first = second := by
  obtain ⟨moment, hmoment, hrest⟩ := except_bind_ok.mp hfirst
  obtain ⟨identifier, hidentifier, hdone⟩ := except_bind_ok.mp hrest
  obtain ⟨moment', hmoment', hrest'⟩ := except_bind_ok.mp hsecond
  obtain ⟨identifier', hidentifier', hdone'⟩ := except_bind_ok.mp hrest'
  rw [orRaise_ok] at hmoment hidentifier hmoment' hidentifier'
  have hsame := (Except.ok.inj hdone).trans (Except.ok.inj hdone').symm
  rw [Prod.mk.injEq, Prod.mk.injEq] at hsame
  obtain ⟨hmodel, rfl, htext⟩ := hsame
  obtain rfl := DateTime.isoformat_inj (hvalid _ hmoment) (hvalid' _ hmoment') htext
  obtain ⟨model, found, written⟩ := first
  obtain ⟨model', found', written'⟩ := second
  dsimp only at hmodel hmoment hidentifier hmoment' hidentifier'
  rw [hmodel, hmoment, hidentifier, hmoment', hidentifier']

/-- Records with the same anchors are the same, up to their order. -/
theorem perm_of_anchors {first second : List (String × List AnchorRecord)}
    {found : List (String × Int × String)}
    (hvalid : ∀ record ∈ anchorRecords first, ∀ moment ∈ record.2.writeDate, moment.Valid)
    (hvalid' : ∀ record ∈ anchorRecords second, ∀ moment ∈ record.2.writeDate, moment.Valid)
    (hfirst : anchors first = .ok found) (hsecond : anchors second = .ok found) :
    (anchorRecords first).Perm (anchorRecords second) := by
  obtain ⟨read, hread, hdone⟩ := except_bind_ok.mp hfirst
  obtain ⟨read', hread', hdone'⟩ := except_bind_ok.mp hsecond
  have hperm : read.Perm read' := by
    have hsorted := List.perm_insertionSort (anchorBefore · ·) read
    have hsorted' := List.perm_insertionSort (anchorBefore · ·) read'
    rw [Except.ok.inj hdone] at hsorted
    rw [Except.ok.inj hdone'] at hsorted'
    exact hsorted.symm.trans hsorted'
  obtain ⟨between, hbetween, hordered⟩ := List.perm_comp_forall₂ hperm
    (forall₂_of_mapM_ok hread').flip
  have hmem : ∀ record ∈ between, ∀ moment ∈ record.2.writeDate, moment.Valid :=
    fun record hrecord => hvalid' record (hordered.mem_iff.mp hrecord)
  have hsame : anchorRecords first = between := by
    have hforall := forall₂_of_mapM_ok hread
    generalize anchorRecords first = records at hvalid hforall
    clear hordered hperm hread hread' hdone hdone' hfirst hsecond
    induction hforall generalizing between with
    | nil =>
        cases hbetween
        rfl
    | @cons record anchor records read hrecord _ ih =>
        cases hbetween with
        | cons hother hrest =>
            obtain ⟨hhead, htail⟩ := List.forall_mem_cons.mp hvalid
            obtain ⟨hhead', htail'⟩ := List.forall_mem_cons.mp hmem
            rw [anchorOf_inj hhead hhead' hrecord hother, ih _ hrest htail' htail]
  rw [hsame]
  exact hordered

theorem loaded_anchorItems (found : List (String × Int × String)) :
    (PyValue.list (found.map fun anchor =>
      PyValue.list [.str anchor.1, .int anchor.2.1, .str anchor.2.2])).Loaded := by
  change PyValue.LoadedItems _
  rw [loadedItems_iff]
  intro item hitem
  obtain ⟨anchor, -, rfl⟩ := List.mem_map.mp hitem
  exact ⟨trivial, trivial, trivial, trivial⟩

theorem loaded_bindingPayload {binding : PyValue} (hbinding : binding.Loaded)
    (found : List (String × Int × String)) : (bindingPayload binding found).Loaded := by
  have hkeys : ([PyKey.str "binding", .str "anchors"]).Nodup := by decide
  exact ⟨hkeys, rfl, hbinding, rfl, loaded_anchorItems found, trivial⟩

theorem anchorItems_inj {first second : List (String × Int × String)}
    (hsame : PyValue.normalItems (first.map fun anchor =>
        PyValue.list [.str anchor.1, .int anchor.2.1, .str anchor.2.2]) =
      PyValue.normalItems (second.map fun anchor =>
        PyValue.list [.str anchor.1, .int anchor.2.1, .str anchor.2.2])) : first = second := by
  induction first generalizing second with
  | nil =>
      cases second with
      | nil => rfl
      | cons anchor rest => cases hsame
  | cons anchor rest ih =>
      cases second with
      | nil => cases hsame
      | cons other others =>
          simp only [List.map_cons, PyValue.normalItems, PyValue.normal, List.cons.injEq,
            PyValue.list.injEq, PyValue.int.injEq, PyValue.str.injEq, and_true] at hsame
          obtain ⟨⟨hmodel, hid, hdate⟩, hrest⟩ := hsame
          rw [ih hrest, Prod.ext hmodel (Prod.ext hid hdate)]

/-! ### Evidence -/

/-- What a workflow makes pages of: its items, the request without the cursor, and the records that
were read for it, by model. -/
structure Evidence (β : Type) where
  items : List β
  limit : Nat
  binding : PyValue
  records : List (String × List AnchorRecord)
  limit_pos : 1 ≤ limit
  bounded : items.length ≤ sysMaxsize
  loaded : binding.Loaded
  valid : ∀ record ∈ anchorRecords records, ∀ moment ∈ record.2.writeDate, moment.Valid

namespace Evidence

variable {β γ : Type}

def page (evidence : Evidence β) (sha256 : String → String) (cursor : Option String) :
    Except PyException (List β × Option String) := do
  paginate sha256 evidence.items evidence.limit cursor evidence.binding (← anchors evidence.records)

def text (evidence : Evidence β) : Except PyException String := do
  return (← canonicalJson (bindingPayload evidence.binding (← anchors evidence.records))).text

structure Same (first : Evidence β) (second : Evidence γ) : Prop where
  binding : first.binding.normal = second.binding.normal
  records : (anchorRecords first.records).Perm (anchorRecords second.records)

theorem same_of_text {first : Evidence β} {second : Evidence γ} {text : String}
    (hfirst : first.text = .ok text) (hsecond : second.text = .ok text) : first.Same second := by
  obtain ⟨found, hfound, hrest⟩ := except_bind_ok.mp hfirst
  obtain ⟨json, hjson, hwritten⟩ := except_bind_ok.mp hrest
  obtain ⟨found', hfound', hrest'⟩ := except_bind_ok.mp hsecond
  obtain ⟨json', hjson', hwritten'⟩ := except_bind_ok.mp hrest'
  have hloaded := loaded_bindingPayload first.loaded found
  have hloaded' := loaded_bindingPayload second.loaded found'
  obtain rfl : json = json' := canonicalJson_eq_of_text hloaded hloaded' hjson hjson'
    ((Except.ok.inj hwritten).trans (Except.ok.inj hwritten').symm)
  have hfields := forall₂_of_canonicalJson_dict hloaded hloaded' rfl hjson hjson'
  simp only [List.forall₂_cons, List.forall₂_nil_left_iff, and_true] at hfields
  obtain ⟨hbinding, hanchors⟩ := hfields
  have hitems := normal_eq_of_sameText (loaded_anchorItems _) (loaded_anchorItems _) hanchors
  obtain rfl := anchorItems_inj (PyValue.list.inj hitems)
  exact ⟨normal_eq_of_sameText first.loaded second.loaded hbinding,
    perm_of_anchors first.valid second.valid hfound hfound'⟩

def fingerprintOf (sha256 : String → String) (text : String) : String :=
  String.ofList ((sha256 text).toList.take 20)

variable {evidence : Evidence β} {sha256 : String → String}

def pageFrom (evidence : Evidence β) (fingerprint : String) (offset : Nat) :
    List β × Option String :=
  let selected := (evidence.items.drop offset).take evidence.limit
  (selected,
    if offset + selected.length < evidence.items.length then
      some (encodePayrollCursor fingerprint (offset + selected.length))
    else none)

theorem page_eq {text : String} (htext : evidence.text = .ok text) (cursor : Option String) :
    evidence.page sha256 cursor = do
      let offset ← decodePayrollCursor cursor (fingerprintOf sha256 text)
      ensure (offset ≤ evidence.items.length) PayrollReader.cursorOutside
      return evidence.pageFrom (fingerprintOf sha256 text) offset := by
  obtain ⟨found, hfound, hrest⟩ := except_bind_ok.mp htext
  obtain ⟨json, hjson, hwritten⟩ := except_bind_ok.mp hrest
  obtain rfl := Except.ok.inj hwritten
  have hfingerprint : fingerprint sha256 evidence.binding found =
      .ok (fingerprintOf sha256 json.text) := except_bind_ok.mpr ⟨json, hjson, rfl⟩
  unfold page
  rw [hfound]
  change paginate sha256 evidence.items evidence.limit cursor evidence.binding found = _
  unfold paginate
  rw [hfingerprint]
  rfl

theorem text_of_page {cursor : Option String} {answer : List β × Option String}
    (hanswer : evidence.page sha256 cursor = .ok answer) : ∃ text, evidence.text = .ok text := by
  obtain ⟨found, hfound, hrest⟩ := except_bind_ok.mp hanswer
  obtain ⟨written, hwritten, -⟩ := except_bind_ok.mp hrest
  obtain ⟨json, hjson, -⟩ := except_bind_ok.mp hwritten
  exact ⟨json.text, except_bind_ok.mpr ⟨found, hfound, except_bind_ok.mpr ⟨json, hjson, rfl⟩⟩⟩

theorem digits_le {offset : Nat} (hoffset : offset < sysMaxsize) :
    offset.repr.toList.length ≤ 4300 := by
  have hdigits : offset.repr.length ≤ 19 :=
    Nat.repr_length offset 19 (by decide) (Nat.lt_trans hoffset (by decide))
  rw [String.length_toList]
  omega

/-- The cursors of the evidence stand for the offsets into its items. -/
theorem byOffset_page {text : String} (htext : evidence.text = .ok text)
    (hplain : Plain (fingerprintOf sha256 text)) :
    ByOffset (evidence.page sha256) Prod.fst Prod.snd evidence.items evidence.limit
      (encodePayrollCursor (fingerprintOf sha256 text)) := by
  refine ⟨⟨evidence.pageFrom (fingerprintOf sha256 text) 0, ?_, rfl, rfl⟩,
    fun offset hpos hoffset =>
      ⟨evidence.pageFrom (fingerprintOf sha256 text) offset, ?_, rfl, rfl⟩⟩
  · rw [page_eq htext]
    exact except_bind_ok.mpr ⟨0, rfl, except_bind_ok.mpr ⟨(), by simp, rfl⟩⟩
  · rw [page_eq htext]
    refine except_bind_ok.mpr ⟨offset, ?_, except_bind_ok.mpr ⟨(), ?_, rfl⟩⟩
    · rw [decodePayrollCursor_encode hplain hpos
        (digits_le (Nat.lt_of_lt_of_le hoffset evidence.bounded)), if_pos rfl]
    · rw [ensure_ok, decide_eq_true_eq]
      exact Nat.le_of_lt hoffset

/-- A cursor is issued with the fingerprint of the evidence. -/
theorem issued_of_page {text : String} (htext : evidence.text = .ok text) {cursor : Option String}
    {answer : List β × Option String} (hanswer : evidence.page sha256 cursor = .ok answer)
    {issued : String} (hissued : answer.2 = some issued) :
    ∃ offset, 0 < offset ∧ offset < evidence.items.length ∧
      issued = encodePayrollCursor (fingerprintOf sha256 text) offset := by
  rw [page_eq htext] at hanswer
  obtain ⟨offset, -, hrest⟩ := except_bind_ok.mp hanswer
  obtain ⟨⟨⟩, -, hdone⟩ := except_bind_ok.mp hrest
  cases hdone
  unfold pageFrom at hissued
  dsimp only at hissued
  split at hissued
  · rename_i hmore
    refine ⟨_, ?_, hmore, (Option.some.inj hissued).symm⟩
    have hlimit := evidence.limit_pos
    rw [List.length_take, List.length_drop] at hmore ⊢
    omega
  · cases hissued

/-- **A cursor is bound to its evidence.** -/
theorem rejected_of_changed {other : Evidence γ} {texts : Set String}
    (hashes : Fingerprints sha256 20 texts)
    (htexts : ∀ text, evidence.text = .ok text ∨ other.text = .ok text → text ∈ texts)
    {cursor unbound : Option String} {answer : List β × Option String}
    (hanswer : evidence.page sha256 cursor = .ok answer) {issued : String}
    (hissued : answer.2 = some issued) {current : List γ × Option String}
    (hcurrent : other.page sha256 unbound = .ok current) (hchanged : ¬ evidence.Same other) :
    other.page sha256 (some issued) = .error cursorMismatch := by
  obtain ⟨text, htext⟩ := text_of_page hanswer
  obtain ⟨otherText, hotherText⟩ := text_of_page hcurrent
  obtain ⟨offset, hpos, hoffset, rfl⟩ := issued_of_page htext hanswer hissued
  have hdiffer : fingerprintOf sha256 text ≠ fingerprintOf sha256 otherText := by
    intro hsame
    have hequal : text = otherText := by
      refine hashes.injective (htexts text (.inl htext)) (htexts otherText (.inr hotherText)) ?_
      have hlists := congrArg String.toList hsame
      rwa [fingerprintOf, fingerprintOf, String.toList_ofList, String.toList_ofList] at hlists
    subst hequal
    exact hchanged (same_of_text htext hotherText)
  have hplain : Plain (fingerprintOf sha256 text) := hashes.plain text
  rw [page_eq hotherText, decodePayrollCursor_encode hplain hpos
    (digits_le (Nat.lt_of_lt_of_le hoffset evidence.bounded)), if_neg hdiffer]
  rfl

end Evidence

/-! ### Consistency -/

/-- What a caller gets from a reading: every item once and in order by following the cursors, and
all of them by collecting. -/
structure Complete {α : Type} (reading : PayrollReading α) (limit : Nat) (listing : Listing α)
    (page : PayrollPage α) : Prop where
  total : page.totalCount = listing.items.length
  nodup : (listing.items.map reading.read.idOf).Nodup
  followed : ∃ pages, FollowedFrom (reading.pageAt limit) PayrollPage.items PayrollPage.nextCursor
    listing.items none 0 pages
  collected : ∀ cap fuel, listing.items.length ≤ cap → cap < fuel →
    (collectPages cap (fun item => .int (reading.read.idOf item)) fuel).evaluate
      (adapterOf reading.page) = .ok (some listing.items)

theorem complete_of_page {α : Type} {reading : PayrollReading α} {limit : Nat}
    {page : PayrollPage α} {texts : Set String}
    (hashes : Fingerprints reading.reader.sha256 16 texts) {listing : Listing α}
    (hlisting : reading.Lists listing) (hpage : reading.pageAt limit none = .ok page) :
    Complete reading limit listing page := by
  have hfetch : reading.pageAt limit = reading.reader.fetchPage listing limit := by
    funext cursor
    unfold PayrollReading.pageAt PayrollReader.fetchPage
    congr 1
    funext request
    exact hlisting.page_eq request
  obtain ⟨request, hrequest, hanswer⟩ := except_bind_ok.mp hpage
  obtain ⟨rfl, -⟩ := PayrollReader.build_ok_iff.mp hrequest
  rw [hlisting.page_eq] at hanswer
  obtain ⟨hpositive, text, htext⟩ := PayrollReader.text_of_pageOf hanswer
  have hplain : Plain (reading.reader.fingerprint text) := hashes.plain text
  refine ⟨totalCount_of_pageOf hanswer, hlisting.gathered.distinct.nodup, ?_, ?_⟩
  · rw [hfetch]
    exact (PayrollReader.byOffset_fetchPage ⟨request.limit_pos, request.limit_le⟩
      hlisting.gathered.distinct.bounded hpositive htext hplain).followed request.limit_pos
  · intro cap fuel hcap hfuel
    exact collectPages_steady (pagesOf_reading hlisting hpositive htext hplain) hcap hfuel

/-! ### A staff of two -/

def staffText (day : String) : String :=
  "\x7b\"anchors\":[[5,\"2021-07-" ++ day ++ "T00:00:00\"],[6,\"2021-07-" ++ day ++
    "T00:00:00\"]],\"binding\":null,\"company_id\":1,\"domain\":[[\"company_id\",\"=\",1]," ++
    "[\"id\",\"in\",[5,6]]],\"model\":\"hr.employee\",\"order\":\"id asc\",\"version\":19\x7d"

/-- The text that a cursor of a workflow that read the staff is bound to. -/
def staffEvidenceText (day : String) : String :=
  "\x7b\"anchors\":[[\"hr.employee\",5,\"2021-07-" ++ day ++ "T00:00:00\"],[\"hr.employee\",6," ++
    "\"2021-07-" ++ day ++ "T00:00:00\"]],\"binding\":\x7b\"company_id\":1,\"limit\":1\x7d\x7d"

/-- SHA-256 of these texts, for two days. -/
def staffSha256 (text : String) : String :=
  if text = staffText "26" then
    "df48c2a146efe1603ff4d4a6071568f7bf4267fe7ea528cfe668d466aec8f6e5"
  else if text = staffText "27" then
    "329f267319ec9e001cbc24e4cf647edc94dd7243fbc981dd2a64ce3e9734fb8a"
  else if text = staffEvidenceText "26" then
    "39b533a3e7e414a05621c4178d7e77a483673d4a8f41d539de350a1b2ed727e1"
  else
    "a1d38c9abea4f457474dc94bb94389b0520e37d8d77606bd9a7135bd531c1b74"

def staffTexts : List String :=
  [staffText "26", staffText "27", staffEvidenceText "26", staffEvidenceText "27"]

theorem fingerprints_staffSha256 {size : Nat} (hsize : 16 ≤ size) :
    Fingerprints staffSha256 size {text | text ∈ staffTexts} := by
  constructor
  · intro text
    unfold staffSha256
    repeat' split
    all_goals exact List.all_iff_forall_prop.mp (by decide)
  · intro first hfirst second hsecond hsame
    have hshort : (staffSha256 first).toList.take 16 = (staffSha256 second).toList.take 16 := by
      have htaken := congrArg (List.take 16) hsame
      rwa [List.take_take, List.take_take, Nat.min_eq_left hsize] at htaken
    have hall : ∀ first ∈ staffTexts, ∀ second ∈ staffTexts,
        (staffSha256 first).toList.take 16 = (staffSha256 second).toList.take 16 →
          first = second := by decide +kernel
    exact hall first hfirst second hsecond hshort

def staffRows (stamp : String) : List Payload :=
  [[("id", .int 5), ("name", .str "Ada"), ("active", .bool true),
      ("company_id", .list [.int 1, .str "Company"]), ("write_date", .str stamp)],
    [("id", .int 6), ("name", .str "Ben"), ("active", .bool true),
      ("company_id", .list [.int 1, .str "Company"]), ("write_date", .str stamp)]]

def staffSource (stamp : String) (request : OdooRequest) :
    Except PyException (odooSignature.Result request) :=
  match request with
  | .connect => .ok ()
  | .searchCount _ _ _ => .ok 2
  | .searchRead _ _ fields _ _ _ _ =>
      .ok ((staffRows stamp).map fun row => row.filter fun entry => fields.contains entry.1)
  | .executeMethod _ _ _ _ _ => .ok (.bool false)
  | .close => .ok ()

def staffStamp (later : Bool) : String :=
  if later then "2021-07-27 00:00:00" else "2021-07-26 00:00:00"

/-- The staff on one of two days. -/
def staffReading (later : Bool) : PayrollReading PayrollEmployee where
  reader := ⟨.v19, some [1], staffSha256⟩
  read := .employees [5, 6]
  companyId := 1
  source := staffSource (staffStamp later)

def staffMoment (later : Bool) : DateTime :=
  ⟨(if later then 737997 else 737996) * DateTime.dayLength, none⟩

theorem valid_staffMoment (later : Bool) : (staffMoment later).Valid := by
  cases later <;> exact ⟨by decide, by decide, by simp [staffMoment]⟩

def staffListing (later : Bool) : Listing PayrollEmployee where
  idOf := PayrollEmployee.id
  writeDateOf := PayrollEmployee.writeDate
  items := [⟨5, "Ada", true, 1, staffMoment later⟩, ⟨6, "Ben", true, 1, staffMoment later⟩]
  companyId := 1
  model := "hr.employee"
  domain := [domainClause "company_id" "=" (.int 1), domainClause "id" "in" (dumpIds [5, 6])]
  order := "id asc"
  binding := .none

theorem text_staffListing (later : Bool) : ((staffListing later).scope .v19).text =
    .ok (staffText (if later then "27" else "26")) := by
  cases later <;> decide +kernel

/-- A source that has no more rows than fit into one page is read at once. -/
theorem evaluate_fetchRows {source : (request : OdooRequest) →
      Except PyException (odooSignature.Result request)} {model : String} {companyId : Int}
    {domain : List PyValue} {fields : List String} {order : String} {rows : List Payload}
    {count : Nat} (hcount : rows.length = count) (hfew : 0 < count ∧ count ≤ 500)
    (hread : source (.searchRead model domain fields count 0 order [companyId]) = .ok rows)
    {seen : List Int} (hseen : PayrollReader.acceptRows fields [] rows = .ok seen) :
    (PayrollReader.fetchRows model companyId domain fields order count).evaluate source =
      .ok rows := by
  have hrest : (PayrollReader.fetchPages model companyId domain fields order count seen 0).evaluate
      source = .ok [] := by
    rw [PayrollReader.fetchPages, dif_pos rfl]
    rfl
  unfold PayrollReader.fetchRows
  rw [if_neg (by omega), PayrollReader.fetchPages, dif_neg (by omega)]
  refine Program.evaluate_bind_ok.mpr ⟨rows, ?_, ?_⟩
  · unfold PayrollReader.fullPage
    refine Program.evaluate_bind_ok.mpr ⟨rows, ?_, ?_⟩
    · rw [Nat.min_eq_right hfew.2, Nat.sub_self]
      exact (Program.evaluate_call _).trans hread
    · rw [if_pos (by omega)]
      rfl
  · refine Program.evaluate_bind_ok.mpr ⟨seen, (Program.evaluate_ofExcept _).trans hseen, ?_⟩
    refine Program.evaluate_bind_ok.mpr ⟨[], ?_, ?_⟩
    · rw [Nat.min_eq_right hfew.2, Nat.sub_self]
      exact hrest
    · rw [List.append_nil]
      rfl

def staffFields : List String := ["id", "name", "active", "company_id", "write_date"]

theorem acceptRows_cons {fields : List String} {seen : List Int} {row : Payload}
    {rows : List Payload} {identifier : Int} (hallowed : fields.any isDeniedField = false)
    (hkeys : row.map Prod.fst = fields)
    (hid : payrollField row Field.positiveInt "id" = .ok identifier) (hfresh : identifier ∉ seen) :
    PayrollReader.acceptRows fields seen (row :: rows) =
      PayrollReader.acceptRows fields (identifier :: seen) rows := by
  have hrow : exactRecord row fields = .ok row := by
    refine except_bind_ok.mpr ⟨(), ?_, rfl⟩
    rw [ensure_ok, hkeys, hallowed]
    simp
  have hnew : (!seen.contains identifier) = true := by simpa using hfresh
  rw [PayrollReader.acceptRows, hrow]
  change (payrollField row Field.positiveInt "id" >>= _) = _
  rw [hid]
  change (ensure (!seen.contains identifier) _ >>= _) = _
  rw [hnew]
  rfl

def staffAnchorRows (stamp : String) : List Payload :=
  [[("id", .int 5), ("write_date", .str stamp)], [("id", .int 6), ("write_date", .str stamp)]]

theorem datetime_staffStamp (later : Bool) :
    Field.datetime (.str (staffStamp later)) = some (staffMoment later) := by
  cases later <;> decide +kernel

theorem rows_staffReading (later : Bool) :
    ((staffReading later).reader.stableRows "hr.employee" 1
      [domainClause "company_id" "=" (.int 1), domainClause "id" "in" (dumpIds [5, 6])] "id asc"
      (payrollSourceCap "hr.employee")).evaluate (staffReading later).source =
        .ok (staffRows (staffStamp later)) := by
  have hallowed : staffFields.any isDeniedField = false := by decide +kernel
  have hallowed' : ["id", "write_date"].any isDeniedField = false := by decide +kernel
  have haccepted : PayrollReader.acceptRows staffFields [] (staffRows (staffStamp later)) =
      .ok [6, 5] := by
    rw [staffRows, acceptRows_cons hallowed rfl rfl List.not_mem_nil,
      acceptRows_cons hallowed rfl rfl (by decide)]
    rfl
  have hshort : PayrollReader.acceptRows ["id", "write_date"] []
      (staffAnchorRows (staffStamp later)) = .ok [6, 5] := by
    rw [staffAnchorRows, acceptRows_cons hallowed' rfl rfl List.not_mem_nil,
      acceptRows_cons hallowed' rfl rfl (by decide)]
    rfl
  have hdated {row : Payload} {identifier : Int}
      (hid : payrollField row Field.positiveInt "id" = .ok identifier)
      (hdate : row.field "write_date" = .str (staffStamp later)) :
      (do return (← payrollField row Field.positiveInt "id",
        ← payrollField row Field.datetime "write_date")) =
          (.ok (identifier, staffMoment later) : Except PyException (Int × DateTime)) := by
    have hmoment : payrollField row Field.datetime "write_date" = .ok (staffMoment later) := by
      rw [payrollField, hdate]
      exact orRaise_ok.mpr (datetime_staffStamp later)
    exact except_bind_ok.mpr ⟨_, hid, except_bind_ok.mpr ⟨_, hmoment, rfl⟩⟩
  have hanchors {first second : Payload}
      (hfirst : payrollField first Field.positiveInt "id" = .ok 5)
      (hsecond : payrollField second Field.positiveInt "id" = .ok 6)
      (hdate : first.field "write_date" = .str (staffStamp later))
      (hdate' : second.field "write_date" = .str (staffStamp later)) :
      PayrollReader.anchors [first, second] =
        .ok [(5, staffMoment later), (6, staffMoment later)] := by
    unfold PayrollReader.anchors
    rw [List.mapM_cons, List.mapM_cons, List.mapM_nil, hdated hfirst hdate, hdated hsecond hdate']
    rfl
  refine Program.evaluate_bind_ok.mpr ⟨(), rfl, ?_⟩
  refine Program.evaluate_bind_ok.mpr ⟨staffFields, rfl, ?_⟩
  refine Program.evaluate_bind_ok.mpr ⟨2, rfl, ?_⟩
  refine Program.evaluate_bind_ok.mpr ⟨(), rfl, ?_⟩
  refine Program.evaluate_bind_ok.mpr ⟨(), rfl, ?_⟩
  refine Program.evaluate_bind_ok.mpr ⟨staffRows (staffStamp later), ?_, ?_⟩
  · exact evaluate_fetchRows rfl ⟨by decide, by decide⟩ rfl haccepted
  refine Program.evaluate_bind_ok.mpr ⟨_, (Program.evaluate_ofExcept _).trans
    (hanchors rfl rfl rfl rfl), ?_⟩
  refine Program.evaluate_bind_ok.mpr ⟨2, rfl, ?_⟩
  refine Program.evaluate_bind_ok.mpr ⟨(), rfl, ?_⟩
  refine Program.evaluate_bind_ok.mpr ⟨staffAnchorRows (staffStamp later), ?_, ?_⟩
  · exact evaluate_fetchRows rfl ⟨by decide, by decide⟩ rfl hshort
  refine Program.evaluate_bind_ok.mpr ⟨_, (Program.evaluate_ofExcept _).trans
    (hanchors rfl rfl rfl rfl), ?_⟩
  refine Program.evaluate_bind_ok.mpr ⟨(), (Program.evaluate_ofExcept _).trans ?_, rfl⟩
  rw [ensure_ok, PayrollReader.sameAnchors, decide_eq_true_eq]

def staffRow (identifier : Int) (name stamp : String) : Payload :=
  [("id", .int identifier), ("name", .str name), ("active", .bool true),
    ("company_id", .list [.int 1, .str "Company"]), ("write_date", .str stamp)]

theorem normalize_staffRow {identifier : Int} (hpositive : 0 < identifier) {name : String}
    (hname : Field.text (.str name) = some name) (later : Bool) :
    normalizeEmployee (staffRow identifier name (staffStamp later)) =
      .ok ⟨identifier, name, true, 1, staffMoment later⟩ := by
  unfold normalizeEmployee
  refine except_bind_ok.mpr ⟨identifier, orRaise_ok.mpr (if_pos hpositive), ?_⟩
  refine except_bind_ok.mpr ⟨name, orRaise_ok.mpr hname, ?_⟩
  refine except_bind_ok.mpr ⟨true, rfl, except_bind_ok.mpr ⟨1, rfl, ?_⟩⟩
  exact except_bind_ok.mpr ⟨staffMoment later, orRaise_ok.mpr (datetime_staffStamp later), rfl⟩

theorem employees_staffReading (later : Bool) :
    (staffRows (staffStamp later)).mapM normalizeEmployee = .ok (staffListing later).items := by
  have hada := normalize_staffRow (by decide : (0 : Int) < 5)
    (by decide : Field.text (.str "Ada") = some "Ada") later
  have hben := normalize_staffRow (by decide : (0 : Int) < 6)
    (by decide : Field.text (.str "Ben") = some "Ben") later
  unfold staffRows
  rw [List.mapM_cons, List.mapM_cons, List.mapM_nil]
  exact except_bind_ok.mpr ⟨_, hada, except_bind_ok.mpr
    ⟨_, except_bind_ok.mpr ⟨_, hben, rfl⟩, rfl⟩⟩

theorem page_staffReading (later : Bool) (request : PayrollPageRequest) :
    (staffReading later).page request =
      (staffReading later).reader.pageOf (staffListing later) request := by
  have hchecked : ((staffListing later).items.insertionSort (·.id ≤ ·.id)) =
      (staffListing later).items := by cases later <;> rfl
  unfold PayrollReading.page
  change (PayrollReader.getPayrollEmployees (staffReading later).reader 1 [5, 6] request).evaluate
    (staffReading later).source = _
  unfold PayrollReader.getPayrollEmployees
  rw [Program.evaluate_bind_of_ok (show Program.evaluate _ _ = Except.ok () from rfl)]
  rw [Program.evaluate_bind_of_ok (rows_staffReading later)]
  rw [Program.evaluate_bind_of_ok
    ((Program.evaluate_ofExcept _).trans (employees_staffReading later)), hchecked]
  rw [Program.evaluate_bind_of_ok
    (show Program.evaluate _ _ = Except.ok () by cases later <;> rfl)]
  exact Program.evaluate_ofExcept _

theorem lists_staffListing (later : Bool) : (staffReading later).Lists (staffListing later) := by
  refine ⟨page_staffReading later, rfl, rfl, rfl, ⟨?_, ?_, ?_⟩, ?_, trivial⟩
  · cases later <;> decide
  · intro item hitem
    simp only [staffListing, List.mem_cons, List.not_mem_nil, or_false] at hitem
    rcases hitem with rfl | rfl <;> exact valid_staffMoment later
  · cases later <;> decide
  · exact ⟨loaded_domainClause.mpr trivial, loaded_domainClause.mpr (loaded_dumpIds _), trivial⟩

def staffEvidence (later : Bool) : Evidence String where
  items := ["Ada", "Ben"]
  limit := 1
  binding := .dict [(.str "company_id", .int 1), (.str "limit", .int 1)]
  records :=
    [("hr.employee", [⟨some 5, some (staffMoment later)⟩, ⟨some 6, some (staffMoment later)⟩])]
  limit_pos := Nat.one_pos
  bounded := by decide
  loaded := ⟨by decide, rfl, trivial, rfl, trivial, trivial⟩
  valid := by
    intro record hrecord moment hmoment
    have hsome : record.2.writeDate = some (staffMoment later) := by
      simp only [anchorRecords, List.flatMap_cons, List.flatMap_nil, List.map_cons, List.map_nil,
        List.append_nil, List.mem_cons, List.not_mem_nil, or_false] at hrecord
      rcases hrecord with rfl | rfl <;> rfl
    rw [hsome] at hmoment
    cases hmoment
    exact valid_staffMoment later

theorem text_staffEvidence (later : Bool) : (staffEvidence later).text =
    .ok (staffEvidenceText (if later then "27" else "26")) := by
  cases later <;> decide +kernel

def staffRequest (cursor : Option String) (hcursor : ∀ text ∈ cursor, text.length ≤ 128) :
    PayrollPageRequest :=
  ⟨1, cursor, Nat.one_pos, Nat.succ_pos 199, hcursor⟩

/-- The first page of the staff. -/
theorem firstPage_staffReading (later : Bool) :
    (staffReading later).page (staffRequest none (by simp)) =
      .ok (PayrollReader.pageAt (staffListing later) 1 ((staffReading later).reader.fingerprint
        (staffText (if later then "27" else "26"))) 0) := by
  have hpositive : ∀ item ∈ (staffListing later).items, 0 < (staffListing later).idOf item := by
    cases later <;> decide
  have htext : ((staffListing later).scope (staffReading later).reader.version).text =
      .ok (staffText (if later then "27" else "26")) := text_staffListing later
  rw [page_staffReading, PayrollReader.pageOf_eq hpositive htext]
  generalize (staffReading later).reader.fingerprint _ = fingerprint
  exact except_bind_ok.mpr ⟨0, rfl, except_bind_ok.mpr ⟨(), by simp, rfl⟩⟩

theorem nextCursor_staffReading :
    (PayrollReader.pageAt (staffListing false) 1
      ((staffReading false).reader.fingerprint (staffText "26")) 0).nextCursor =
        some (encodePayrollCursor "df48c2a146efe160" 1) := by
  have hfingerprint : (staffReading false).reader.fingerprint (staffText "26") =
      "df48c2a146efe160" := by
    decide +kernel
  rw [hfingerprint]
  rfl

theorem firstPage_staffEvidence (later : Bool) :
    (staffEvidence later).page staffSha256 none =
      .ok ((staffEvidence later).pageFrom (Evidence.fingerprintOf staffSha256
        (staffEvidenceText (if later then "27" else "26"))) 0) := by
  rw [Evidence.page_eq (text_staffEvidence later)]
  generalize Evidence.fingerprintOf staffSha256 _ = fingerprint
  exact except_bind_ok.mpr ⟨0, rfl, except_bind_ok.mpr ⟨(), by simp, rfl⟩⟩

theorem nextCursor_staffEvidence :
    ((staffEvidence false).pageFrom
      (Evidence.fingerprintOf staffSha256 (staffEvidenceText "26")) 0).2 =
        some (encodePayrollCursor "39b533a3e7e414a05621" 1) := by
  have hfingerprint : Evidence.fingerprintOf staffSha256 (staffEvidenceText "26") =
      "39b533a3e7e414a05621" := by
    decide +kernel
  rw [hfingerprint]
  rfl

/-! ### Unchanged and changed sources -/

/-- **Cursors of payroll pages are consistent**, over every source, request and page size: they read
every item once while nothing changes, and are rejected as soon as something has. Collecting is
bounded whatever the adapter does. -/
theorem payroll_cursor_consistency {sha256 : String → String} {texts : Set String}
    (hreader : Fingerprints sha256 16 texts) (hevidence : Fingerprints sha256 20 texts) :
    (∀ (α : Type) (reading : PayrollReading α) (limit : Nat) (page : PayrollPage α),
      reading.reader.sha256 = sha256 → reading.pageAt limit none = .ok page →
        ∃ listing, reading.Lists listing ∧ Complete reading limit listing page) ∧
    (∀ (α β : Type) (reading : PayrollReading α) (other : PayrollReading β) (listing : Listing α)
      (current : Listing β) (request unbound bound : PayrollPageRequest) (page : PayrollPage α)
      (answer : PayrollPage β) (cursor : String),
      reading.reader.sha256 = sha256 → other.reader.sha256 = sha256 →
        reading.Lists listing → other.Lists current →
        (∀ text, (listing.scope reading.reader.version).text = .ok text ∨
          (current.scope other.reader.version).text = .ok text → text ∈ texts) →
        reading.page request = .ok page → page.nextCursor = some cursor →
        other.page unbound = .ok answer →
        ¬ (listing.scope reading.reader.version).Same (current.scope other.reader.version) →
        bound.cursor = some cursor → other.page bound = .error cursorMismatch) ∧
    (∀ (β : Type) (evidence : Evidence β) (answer : List β × Option String),
      evidence.page sha256 none = .ok answer →
        ∃ pages, FollowedFrom (evidence.page sha256) Prod.fst Prod.snd evidence.items none 0
          pages) ∧
    (∀ (β γ : Type) (evidence : Evidence β) (other : Evidence γ) (cursor unbound : Option String)
      (answer : List β × Option String) (current : List γ × Option String) (issued : String),
      (∀ text, evidence.text = .ok text ∨ other.text = .ok text → text ∈ texts) →
        evidence.page sha256 cursor = .ok answer → answer.2 = some issued →
        other.page sha256 unbound = .ok current → ¬ evidence.Same other →
        other.page sha256 (some issued) = .error cursorMismatch) ∧
    ∀ (α : Type) (cap : Nat) (idOf : α → PyValue) (fuel : Nat),
      Program.AtMost (fun _ => true) (cap + 1) (collectPages cap idOf fuel) ∧
      (cap < fuel → ∀ trace result, Program.Runs (collectPages cap idOf fuel) trace result →
        result ≠ .ok none) ∧
      ∀ trace items, Program.Runs (collectPages cap idOf fuel) trace (.ok (some items)) →
        Agreed trace (some items.length) ∧ (items.map idOf).Nodup ∧ items.length ≤ cap := by
  refine ⟨?_, ?_, ?_, ?_, ?_⟩
  · rintro α reading limit page rfl hpage
    obtain ⟨request, hrequest, hanswer⟩ := except_bind_ok.mp hpage
    obtain ⟨listing, hlisting⟩ := PayrollReading.exists_lists hanswer
    exact ⟨listing, hlisting, complete_of_page hreader hlisting hpage⟩
  · rintro α β reading other listing current request unbound bound page answer cursor rfl hsha
      hlisting hcurrent htexts hpage hcursor hanswer hchanged hbound
    rw [hlisting.page_eq] at hpage
    rw [hcurrent.page_eq] at hanswer ⊢
    exact PayrollReader.rejected_of_changed hreader hsha (hlisting.gathered.wellFormed _)
      (hcurrent.gathered.wellFormed _) hlisting.gathered.distinct.bounded hpage hcursor hanswer
      htexts hchanged hbound
  · intro β evidence answer hanswer
    obtain ⟨text, htext⟩ := Evidence.text_of_page hanswer
    exact (Evidence.byOffset_page htext (hevidence.plain text)).followed evidence.limit_pos
  · intro β γ evidence other cursor unbound answer current issued htexts hanswer hissued hcurrent
      hchanged
    exact Evidence.rejected_of_changed hevidence htexts hanswer hissued hcurrent hchanged
  · intro α cap idOf fuel
    obtain ⟨hbounded, hends⟩ := collectPages_bounded cap idOf fuel
    exact ⟨hbounded, hends, fun trace items hruns => collectPages_returned hruns⟩

theorem payroll_cursor_consistency_staff :
    (∃ page, (staffReading false).pageAt 1 none = .ok page ∧
      ∃ listing, (staffReading false).Lists listing ∧
        Complete (staffReading false) 1 listing page) ∧
    (staffReading true).page (staffRequest (some (encodePayrollCursor "df48c2a146efe160" 1))
      (by decide +kernel)) = .error cursorMismatch ∧
    (∃ pages, FollowedFrom ((staffEvidence false).page staffSha256) Prod.fst Prod.snd
      (staffEvidence false).items none 0 pages) ∧
    (staffEvidence true).page staffSha256 (some (encodePayrollCursor "39b533a3e7e414a05621" 1)) =
      .error cursorMismatch ∧
    Program.AtMost (fun _ => true) 3
      (collectPages 2 (fun item : PayrollEmployee => .int item.id) 3) := by
  obtain ⟨hfollowed, hrejected, hanswered, hunbound, hbounded⟩ := payroll_cursor_consistency
    (fingerprints_staffSha256 (Nat.le_refl 16)) (fingerprints_staffSha256 (by decide))
  refine ⟨⟨_, firstPage_staffReading false,
    hfollowed _ _ 1 _ rfl (firstPage_staffReading false)⟩, ?_, ?_, ?_, ?_⟩
  · refine hrejected _ _ (staffReading false) (staffReading true) _ _ _ _ _ _ _ _ rfl rfl
      (lists_staffListing false) (lists_staffListing true) ?_ (firstPage_staffReading false)
      nextCursor_staffReading (firstPage_staffReading true) ?_ rfl
    · intro text htext
      rcases htext with htext | htext
      · obtain rfl := Except.ok.inj ((text_staffListing false).symm.trans htext)
        exact List.mem_cons_self
      · obtain rfl := Except.ok.inj ((text_staffListing true).symm.trans htext)
        exact List.mem_cons_of_mem _ List.mem_cons_self
    · intro hsame
      exact absurd hsame.anchors (by decide)
  · exact hanswered _ (staffEvidence false) _ (firstPage_staffEvidence false)
  · refine hunbound _ _ (staffEvidence false) (staffEvidence true) none none _ _ _ ?_
      (firstPage_staffEvidence false) nextCursor_staffEvidence (firstPage_staffEvidence true) ?_
    · intro text htext
      rcases htext with htext | htext
      · obtain rfl := Except.ok.inj ((text_staffEvidence false).symm.trans htext)
        exact List.mem_cons_of_mem _ (List.mem_cons_of_mem _ List.mem_cons_self)
      · obtain rfl := Except.ok.inj ((text_staffEvidence true).symm.trans htext)
        exact List.mem_cons_of_mem _ (List.mem_cons_of_mem _ (List.mem_cons_of_mem _
          List.mem_cons_self))
    · intro hsame
      have hmoments := hsame.records.map fun record => record.2.writeDate
      exact absurd hmoments (by decide)
  · exact (hbounded PayrollEmployee 2 (fun item => .int item.id) 3).1

end PayrollEvidence

end OdooMcp
