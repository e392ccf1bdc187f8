import Mathlib.Data.Nat.Digits.Defs
import OdooMcp.Adapters.PayrollCursors
import OdooMcp.Effect.Steady
import OdooMcp.Pagination

/-!
# Pages of the payroll reader

Every paged read gathers its items first and then makes a page of them, so that the page asked for
has no influence on the items. Following the cursors over a source that does not change reads all of
them, and a cursor is rejected as soon as anything it is bound to has changed.
-/

namespace OdooMcp

open Effect Pagination

/-- `sys.maxsize`, which no list is longer than. -/
def sysMaxsize : Nat := 2 ^ 63 - 1

/-- What `_page` makes a page of. -/
structure Listing (α : Type) where
  idOf : α → Int
  writeDateOf : α → DateTime
  items : List α
  companyId : Int
  model : String
  domain : List PyValue
  order : String
  binding : PyValue

def Listing.scope {α : Type} (listing : Listing α) (version : PayrollVersion) : CursorScope where
  version := version
  companyId := listing.companyId
  model := listing.model
  domain := listing.domain
  order := listing.order
  binding := listing.binding
  anchors := listing.items.map fun item => (listing.idOf item, listing.writeDateOf item)

namespace PayrollReader

variable (reader : PayrollReader) {α : Type}

def pageOf (listing : Listing α) (request : PayrollPageRequest) :
    Except PyException (PayrollPage α) :=
  reader.page listing.idOf listing.writeDateOf listing.items listing.companyId request listing.model
    listing.domain listing.order listing.binding

def fetchPage (listing : Listing α) (limit : Nat) (cursor : Option String) :
    Except PyException (PayrollPage α) := do
  reader.pageOf listing (← PayrollPageRequest.build limit cursor)

variable {reader}

def pageAt (listing : Listing α) (limit : Nat) (fingerprint : String) (offset : Nat) :
    PayrollPage α where
  items := (listing.items.drop offset).take limit
  totalCount := listing.items.length
  nextCursor :=
    if offset + ((listing.items.drop offset).take limit).length < listing.items.length then
      some (encodePayrollCursor fingerprint
        (offset + ((listing.items.drop offset).take limit).length))
    else none

def cursorOutside : PyException :=
  payrollError .invalidInput "The Payroll pagination cursor is outside this result."
    "Restart the Payroll request without a cursor."

def fingerprint (reader : PayrollReader) (text : String) : String :=
  String.ofList ((reader.sha256 text).toList.take 16)

/-- What `_page` does once the listing is found to have one. -/
theorem pageOf_eq {listing : Listing α} {request : PayrollPageRequest} {text : String}
    (hpositive : ∀ item ∈ listing.items, 0 < listing.idOf item)
    (htext : (listing.scope reader.version).text = .ok text) :
    reader.pageOf listing request = do
      let offset ← decodePayrollCursor request.cursor (reader.fingerprint text)
      ensure (offset ≤ listing.items.length) cursorOutside
      return pageAt listing request.limit (reader.fingerprint text) offset := by
  have hfingerprint := (listing.scope reader.version).fingerprint_eq reader.sha256
  rw [htext] at hfingerprint
  have hids : listing.items.all (fun item => 0 < listing.idOf item) = true := by
    simpa using hpositive
  unfold pageOf PayrollReader.page
  rw [hids]
  change (cursorFingerprint reader.sha256 reader.version listing.companyId listing.model
    listing.domain listing.order listing.binding
      (listing.items.map fun item => (listing.idOf item, listing.writeDateOf item)) >>= _) = _
  rw [show cursorFingerprint reader.sha256 reader.version listing.companyId listing.model
    listing.domain listing.order listing.binding
      (listing.items.map fun item => (listing.idOf item, listing.writeDateOf item)) =
        .ok (reader.fingerprint text) from hfingerprint]
  rfl

/-- A listing that has a page has a fingerprint. -/
theorem text_of_pageOf {listing : Listing α} {request : PayrollPageRequest} {page : PayrollPage α}
    (hpage : reader.pageOf listing request = .ok page) :
    (∀ item ∈ listing.items, 0 < listing.idOf item) ∧
      ∃ text, (listing.scope reader.version).text = .ok text := by
  obtain ⟨⟨⟩, hids, hrest⟩ := except_bind_ok.mp hpage
  obtain ⟨found, hfound, -⟩ := except_bind_ok.mp hrest
  have hfingerprint := (listing.scope reader.version).fingerprint_eq reader.sha256
  refine ⟨by simpa using ensure_ok.mp hids, ?_⟩
  cases htext : (listing.scope reader.version).text with
  | ok text => exact ⟨text, rfl⟩
  | error error =>
      rw [htext] at hfingerprint
      have hsame := hfound.symm.trans hfingerprint
      cases hsame

/-! ### A source that does not change -/

theorem build_ok_iff {limit : Nat} {cursor : Option String} {request : PayrollPageRequest} :
    PayrollPageRequest.build limit cursor = .ok request ↔
      request.limit = limit ∧ request.cursor = cursor := by
  unfold PayrollPageRequest.build
  split
  · rename_i hvalid
    constructor
    · rintro ⟨⟩
      exact ⟨rfl, rfl⟩
    · rintro ⟨rfl, rfl⟩
      rfl
  · rename_i hinvalid
    constructor
    · rintro ⟨⟩
    · rintro ⟨rfl, rfl⟩
      exact absurd ⟨request.limit_pos, request.limit_le, request.cursor_le⟩ hinvalid

theorem length_fingerprint_le (reader : PayrollReader) (text : String) :
    (reader.fingerprint text).length ≤ 20 := by
  rw [fingerprint, String.length_ofList, List.length_take]
  omega

/-- A cursor of a list fits into a request. -/
theorem length_cursor_le {fingerprint : String} (hplain : Plain fingerprint)
    (hshort : fingerprint.length ≤ 20) {offset : Nat} (hoffset : offset < sysMaxsize) :
    (encodePayrollCursor fingerprint offset).length ≤ 128 ∧ offset.repr.toList.length ≤ 4300 := by
  have hdigits : offset.repr.length ≤ 19 :=
    Nat.repr_length offset 19 (by decide) (Nat.lt_trans hoffset (by decide))
  rw [length_encodePayrollCursor hplain, String.length_toList]
  omega

/-- The cursors of a listing stand for the offsets into its items. -/
theorem byOffset_fetchPage {listing : Listing α} {limit : Nat} (hlimit : 1 ≤ limit ∧ limit ≤ 200)
    (hsize : listing.items.length ≤ sysMaxsize)
    (hpositive : ∀ item ∈ listing.items, 0 < listing.idOf item) {text : String}
    (htext : (listing.scope reader.version).text = .ok text)
    (hplain : Plain (reader.fingerprint text)) :
    ByOffset (reader.fetchPage listing limit) PayrollPage.items PayrollPage.nextCursor
      listing.items limit (encodePayrollCursor (reader.fingerprint text)) := by
  have hfetched {cursor : Option String} (hcursor : ∀ written ∈ cursor, written.length ≤ 128)
      {offset : Nat} (hdecoded : decodePayrollCursor cursor (reader.fingerprint text) = .ok offset)
      (hwithin : offset ≤ listing.items.length) : reader.fetchPage listing limit cursor =
        .ok (pageAt listing limit (reader.fingerprint text) offset) := by
    have hbuild : PayrollPageRequest.build limit cursor =
        .ok ⟨limit, cursor, hlimit.1, hlimit.2, hcursor⟩ := build_ok_iff.mpr ⟨rfl, rfl⟩
    unfold fetchPage
    rw [hbuild]
    change reader.pageOf listing _ = _
    rw [pageOf_eq hpositive htext]
    refine except_bind_ok.mpr ⟨offset, hdecoded, except_bind_ok.mpr ⟨(), ?_, rfl⟩⟩
    rw [ensure_ok, decide_eq_true_eq]
    exact hwithin
  have hfirst : ∀ written ∈ (none : Option String), written.length ≤ 128 := by simp
  refine ⟨⟨_, hfetched hfirst rfl (Nat.zero_le _), rfl, rfl⟩, ?_⟩
  intro offset hpos hoffset
  obtain ⟨hlength, hdigits⟩ := length_cursor_le hplain (length_fingerprint_le reader text)
    (Nat.lt_of_lt_of_le hoffset hsize)
  refine ⟨_, hfetched ?_ ?_ (Nat.le_of_lt hoffset), rfl, rfl⟩
  · rintro written ⟨⟩
    exact hlength
  · rw [decodePayrollCursor_encode hplain hpos hdigits, if_pos rfl]

/-! ### A source that has changed -/

/-- A cursor is issued with the fingerprint of its listing. -/
theorem issued_of_pageOf {listing : Listing α} {request : PayrollPageRequest}
    {page : PayrollPage α} (hpage : reader.pageOf listing request = .ok page) {text : String}
    (htext : (listing.scope reader.version).text = .ok text) {cursor : String}
    (hcursor : page.nextCursor = some cursor) :
    ∃ offset, 0 < offset ∧ offset < listing.items.length ∧
      cursor = encodePayrollCursor (reader.fingerprint text) offset := by
  rw [pageOf_eq (text_of_pageOf hpage).1 htext] at hpage
  obtain ⟨offset, -, hrest⟩ := except_bind_ok.mp hpage
  obtain ⟨⟨⟩, -, hdone⟩ := except_bind_ok.mp hrest
  cases hdone
  unfold pageAt at hcursor
  dsimp only at hcursor
  split at hcursor
  · rename_i hmore
    refine ⟨_, ?_, hmore, (Option.some.inj hcursor).symm⟩
    have hlimit := request.limit_pos
    rw [List.length_take, List.length_drop] at hmore ⊢
    omega
  · cases hcursor

/-- **A cursor is bound to its listing.** A listing that differs in anything rejects it. -/
theorem rejected_of_changed {first second : PayrollReader} {listing : Listing α} {β : Type}
    {other : Listing β} {texts : Set String} (hashes : Fingerprints first.sha256 16 texts)
    (hsha : second.sha256 = first.sha256)
    (hscope : (listing.scope first.version).WellFormed)
    (hother : (other.scope second.version).WellFormed)
    (hsize : listing.items.length ≤ sysMaxsize)
    {request : PayrollPageRequest} {page : PayrollPage α}
    (hpage : first.pageOf listing request = .ok page) {cursor : String}
    (hcursor : page.nextCursor = some cursor)
    {unbound : PayrollPageRequest} {current : PayrollPage β}
    (hcurrent : second.pageOf other unbound = .ok current)
    (htexts : ∀ text, (listing.scope first.version).text = .ok text ∨
      (other.scope second.version).text = .ok text → text ∈ texts)
    (hchanged : ¬ (listing.scope first.version).Same (other.scope second.version))
    {bound : PayrollPageRequest} (hbound : bound.cursor = some cursor) :
    second.pageOf other bound = .error cursorMismatch := by
  obtain ⟨-, text, htext⟩ := text_of_pageOf hpage
  obtain ⟨hpositive, otherText, hotherText⟩ := text_of_pageOf hcurrent
  obtain ⟨offset, hpos, hoffset, rfl⟩ := issued_of_pageOf hpage htext hcursor
  have hplain : Plain (first.fingerprint text) := hashes.plain text
  obtain ⟨-, hdigits⟩ := length_cursor_le hplain (length_fingerprint_le first text)
    (Nat.lt_of_lt_of_le hoffset hsize)
  have hdiffer : first.fingerprint text ≠ second.fingerprint otherText := by
    intro hsame
    have hequal : text = otherText := by
      refine hashes.injective (htexts text (.inl htext)) (htexts otherText (.inr hotherText)) ?_
      have hlists := congrArg String.toList hsame
      rwa [fingerprint, fingerprint, String.toList_ofList, String.toList_ofList, hsha] at hlists
    subst hequal
    exact hchanged (CursorScope.same_of_text hscope hother htext hotherText)
  rw [pageOf_eq hpositive hotherText, hbound,
    decodePayrollCursor_encode hplain hpos hdigits, if_neg hdiffer]
  rfl

end PayrollReader

end OdooMcp
