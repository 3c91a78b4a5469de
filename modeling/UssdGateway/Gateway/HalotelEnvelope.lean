import UssdGateway.Gateway.BreakMarkup
import UssdGateway.Gateway.Parsing

/-!
The envelope that is pushed to Halotel, and the tags that its edits leave.
-/

namespace UssdGateway

namespace Halotel

open Xml Str

structure OutboundFields where
  outUser : Str
  outPass : Str
  msisdn : Str
  msg : Str
  sessionid : Str
  transactionid : Str
  requestType : Str
  ussdgwId : Str

def orNull (value : Str) : Str := if value = [] then lit "null" else value

def outboundLeaf (tag : String) (value : Str) : Str := xmlLeaf (lit tag) (orNull value)

def serialised (fields : OutboundFields) : Str :=
  lit "<?xml version='1.0' encoding='utf-8'?>\n" ++
    lit "<ns0:Envelope xmlns:ns0=\"http://schemas.xmlsoap.org/soap/envelope/\"><ns0:Body>" ++
    lit "<InsertMO xmlns=\"http://tempuri.org/\">" ++
    outboundLeaf "user" fields.outUser ++ outboundLeaf "pass" fields.outPass ++
    outboundLeaf "msisdn" fields.msisdn ++ outboundLeaf "msg" fields.msg ++
    outboundLeaf "sessionid" fields.sessionid ++
    outboundLeaf "transactionid" fields.transactionid ++
    outboundLeaf "requestType" fields.requestType ++ outboundLeaf "ussdgw_id" fields.ussdgwId ++
    lit "</InsertMO></ns0:Body></ns0:Envelope>"

def envelopeTag : Str :=
  lit "soap:Envelope xmlns:soap=\"http://schemas.xmlsoap.org/soap/envelope/\""

def declaringTag : Str :=
  envelopeTag ++ lit " xmlns:xsi=\"http://www.w3.org/2001/XMLSchema-instance\"" ++
    lit " xmlns:xsd=\"http://www.w3.org/2001/XMLSchema\""

def renamed (raw : Str) : Str :=
  replaceAll (lit "xmlns:ns0=") (lit "xmlns:soap=") (replaceAll (lit "ns0:") (lit "soap:") raw)

def buildOutboundEnvelope (fields : OutboundFields) : Str :=
  let raw := replaceAll (chr '<' :: (envelopeTag ++ [chr '>']))
    (chr '<' :: (declaringTag ++ [chr '>'])) (renamed (serialised fields))
  unescapeBreaks raw.length raw

/-- The body of a request as `_parse_soap` takes it. `detail` is the text of a parse error. -/
def soapBody (detail text : Str) : RequestBody where
  isEmpty := text.isEmpty
  xml := match fromstring text with
    | some root => .ok root
    | none => .error detail
  json := none
  form := []

namespace OutboundFields

def values (fields : OutboundFields) : List Str :=
  [fields.outUser, fields.outPass, fields.msisdn, fields.msg, fields.sessionid,
    fields.transactionid, fields.requestType, fields.ussdgwId]

def leaves (fields : OutboundFields) : List (Str × Str) :=
  [(lit "user", orNull fields.outUser), (lit "pass", orNull fields.outPass),
    (lit "msisdn", orNull fields.msisdn), (lit "msg", orNull fields.msg),
    (lit "sessionid", orNull fields.sessionid),
    (lit "transactionid", orNull fields.transactionid),
    (lit "requestType", orNull fields.requestType), (lit "ussdgw_id", orNull fields.ussdgwId)]

def readBack (fields : OutboundFields) : Fields where
  user := orNull fields.outUser
  pass := orNull fields.outPass
  msisdn := orNull fields.msisdn
  msg := orNull fields.msg
  sessionid := orNull fields.sessionid
  transactionid := orNull fields.transactionid
  requesttype := orNull fields.requestType
  ussdgwId := orNull fields.ussdgwId
  imsi := []

end OutboundFields

structure Fitting (value : Str) : Prop where
  legal : value.all legal = true
  trimmed : strip value = value
  breakFree : BreakFree (lit "<") (lit ">") value

structure FittingFields extends OutboundFields where
  fitting : ∀ value ∈ toOutboundFields.values, Fitting value

/-- No carriage return, and nowhere the prefix that is renamed. -/
def Unedited (value : Str) : Prop :=
  chr '\r' ∉ value ∧ ¬ lit "ns0:" <:+: value ∧ ¬ lit "xmlns:ns0=" <:+: value

instance (value : Str) : Decidable (Unedited value) := inferInstanceAs (Decidable (_ ∧ _ ∧ _))

/-! The envelope as tags. -/

def leafTags (leaf : Str × Str) : List (Str × Str) :=
  [(leaf.1, xmlText leaf.2), (chr '/' :: leaf.1, [])]

def openingTags (root body : Str) : List (Str × Str) :=
  [(lit "?xml version='1.0' encoding='utf-8'?", lit "\n"), (root, []), (body, []),
    (lit "InsertMO xmlns=\"http://tempuri.org/\"", [])]

def closingTags (root body : Str) : List (Str × Str) :=
  [(lit "/InsertMO", []), (body, []), (root, [])]

def writtenTags (fields : OutboundFields) : List (Str × Str) :=
  openingTags (lit "ns0:Envelope xmlns:ns0=\"http://schemas.xmlsoap.org/soap/envelope/\"")
      (lit "ns0:Body") ++ fields.leaves.flatMap leafTags ++
    closingTags (lit "/ns0:Envelope") (lit "/ns0:Body")

def sentTags (fields : OutboundFields) : List (Str × Str) :=
  openingTags declaringTag (lit "soap:Body") ++
    (fields.leaves.map fun leaf => (leaf.1, renamed leaf.2)).flatMap leafTags ++
    closingTags (lit "/soap:Envelope") (lit "/soap:Body")

theorem orNull_ne_nil (value : Str) : orNull value ≠ [] := by
  rw [orNull]
  split
  · decide
  next some_ => exact some_

theorem outboundLeaf_eq (tag : String) (value : Str) :
    outboundLeaf tag value = spelled (leafTags (lit tag, orNull value)) := by
  rw [outboundLeaf, xmlLeaf, if_neg (orNull_ne_nil value), leafTags, spelled_cons, spelled_cons]
  have opens : lit "<" = [chr '<'] := rfl
  have closes : lit ">" = [chr '>'] := rfl
  have ends : lit "</" = [chr '<', chr '/'] := rfl
  rw [opens, closes, ends]
  simp [spelled]

theorem serialised_eq (fields : OutboundFields) :
    serialised fields = spelled (writtenTags fields) := by
  have opening : spelled (openingTags
      (lit "ns0:Envelope xmlns:ns0=\"http://schemas.xmlsoap.org/soap/envelope/\"")
      (lit "ns0:Body")) =
      lit "<?xml version='1.0' encoding='utf-8'?>\n" ++
        lit "<ns0:Envelope xmlns:ns0=\"http://schemas.xmlsoap.org/soap/envelope/\"><ns0:Body>" ++
        lit "<InsertMO xmlns=\"http://tempuri.org/\">" := by decide +kernel
  have closing : spelled (closingTags (lit "/ns0:Envelope") (lit "/ns0:Body")) =
      lit "</InsertMO></ns0:Body></ns0:Envelope>" := by decide +kernel
  rw [serialised, writtenTags, spelled_append, spelled_append, opening, closing]
  simp only [outboundLeaf_eq, OutboundFields.leaves, List.flatMap_cons, List.flatMap_nil,
    spelled_append, List.append_assoc]
  rfl

def leafNames : List Str :=
  [lit "user", lit "pass", lit "msisdn", lit "msg", lit "sessionid", lit "transactionid",
    lit "requestType", lit "ussdgw_id"]

theorem leaf_name {fields : OutboundFields} {leaf : Str × Str} (member : leaf ∈ fields.leaves) :
    leaf.1 ∈ leafNames := by
  have names : fields.leaves.map Prod.fst = leafNames := rfl
  rw [← names]
  exact List.mem_map_of_mem member

theorem leaf_value {fields : OutboundFields} {leaf : Str × Str} (member : leaf ∈ fields.leaves) :
    ∃ value ∈ fields.values, leaf.2 = orNull value := by
  have values : fields.leaves.map Prod.snd = fields.values.map orNull := rfl
  have inside := List.mem_map_of_mem (f := Prod.snd) member
  rw [values] at inside
  obtain ⟨value, among, same⟩ := List.mem_map.1 inside
  exact ⟨value, among, same.symm⟩

theorem leafNames_untouched : ∀ name ∈ leafNames,
    (renamed name = name ∧ renamed (chr '/' :: name) = chr '/' :: name) ∧
      (name ≠ envelopeTag ∧ chr '/' :: name ≠ envelopeTag) ∧
        (Unmarked name ∧ Unmarked (chr '/' :: name)) ∧
          chr '&' ∉ name ∧ chr '&' ∉ chr '/' :: name := by
  decide +kernel

theorem renamed_spelled (tags : List (Str × Str)) :
    renamed (spelled tags) = spelled (tags.map fun tag => (renamed tag.1, renamed tag.2)) := by
  rw [renamed, (between_replaceAll (by decide) (by decide)).spelled,
    (between_replaceAll (by decide) (by decide)).spelled, List.map_map]
  rfl

theorem forall_of_all {kind : CodePoint → Prop} [DecidablePred kind] {text : Str}
    (all : (text.all fun point => decide (kind point)) = true) : ∀ point ∈ text, kind point :=
  fun point member => of_decide_eq_true (List.all_eq_true.1 all point member)

theorem encodable_renamed {value : Str} (scalar : value.Encodable) : (renamed value).Encodable :=
  forall_replaceAll (by decide) (encodable_lit _)
    (forall_replaceAll (by decide) (encodable_lit _) scalar)

theorem legal_renamed {value : Str} (all : value.all legal = true) :
    (renamed value).all legal = true := by
  rw [List.all_eq_true] at all ⊢
  have soap : ∀ point ∈ lit "soap:", legal point = true := List.all_eq_true.1 (by decide)
  have xmlns : ∀ point ∈ lit "xmlns:soap=", legal point = true := List.all_eq_true.1 (by decide)
  exact forall_replaceAll (by decide) xmlns (forall_replaceAll (by decide) soap all)

theorem renamed_xmlText {value : Str} (scalar : value.Encodable) :
    renamed (xmlText value) = xmlText (renamed value) := by
  have first := @replaceAll_xmlText (chr 'n') (lit "s0:") (lit "soap:") (forall_of_all (by decide))
    (forall_of_all (by decide)) (by decide) value scalar
  have second := @replaceAll_xmlText (chr 'x') (lit "mlns:ns0=") (lit "xmlns:soap=")
    (forall_of_all (by decide)) (forall_of_all (by decide)) (by decide) _
    (@forall_replaceAll (lit "ns0:") (lit "soap:") (by decide) _ (encodable_lit "soap:") _ scalar)
  exact (congrArg _ first).trans second

theorem breakFree_renamed {value : Str} (free : BreakFree (lit "<") (lit ">") value) :
    BreakFree (lit "<") (lit ">") (renamed value) :=
  @breakFree_replaceAll (chr 'x') (chr 'x') (lit "mlns:ns0=") (lit "mlns:soap=") (by decide)
    (by decide) _
    (@breakFree_replaceAll (chr 'n') (chr 's') (lit "s0:") (lit "oap:") (by decide) (by decide) _
      free)

theorem forall_tags {kind : Str × Str → Prop} {opening closing leaves : List (Str × Str)}
    (first : ∀ tag ∈ opening, kind tag) (last : ∀ tag ∈ closing, kind tag)
    (inner : ∀ leaf ∈ leaves, kind (leaf.1, xmlText leaf.2) ∧ kind (chr '/' :: leaf.1, [])) :
    ∀ tag ∈ opening ++ leaves.flatMap leafTags ++ closing, kind tag := by
  intro tag member
  rcases List.mem_append.1 member with before | after
  · rcases List.mem_append.1 before with opens | inside
    · exact first tag opens
    · obtain ⟨leaf, among, here⟩ := List.mem_flatMap.1 inside
      rw [leafTags, List.mem_cons, List.mem_singleton] at here
      rcases here with rfl | rfl
      · exact (inner leaf among).1
      · exact (inner leaf among).2
  · exact last tag after

theorem map_leafTags {edit : Str × Str → Str × Str} {leaves : List (Str × Str)}
    {value : Str → Str}
    (leaf : ∀ leaf ∈ leaves, edit (leaf.1, xmlText leaf.2) = (leaf.1, xmlText (value leaf.2)) ∧
      edit (chr '/' :: leaf.1, []) = (chr '/' :: leaf.1, [])) :
    (leaves.flatMap leafTags).map edit =
      (leaves.map fun leaf => (leaf.1, value leaf.2)).flatMap leafTags := by
  induction leaves with
  | nil => rfl
  | cons first rest ih =>
      obtain ⟨here, later⟩ := List.forall_mem_cons.1 leaf
      rw [List.flatMap_cons, List.map_append, ih later, List.map_cons, List.flatMap_cons]
      simp only [leafTags, List.map_cons, List.map_nil, here.1, here.2]

theorem orNull_cases {kind : Str → Prop} (null : kind (lit "null")) {value : Str}
    (here : kind value) : kind (orNull value) := by
  rw [orNull]
  split
  · exact null
  · exact here

theorem breakFree_of_absent {lead : CodePoint} (small : lead.val < 0x61 ∨ 0x7A < lead.val)
    {later closing text : Str} (absent : lead ∉ text) : BreakFree (lead :: later) closing text := by
  intro rest ends
  by_contra found
  obtain ⟨left, matched⟩ := Option.ne_none_iff_exists'.1 found
  obtain ⟨behind, rfl⟩ := matchBreak_leads small matched
  exact absent (ends.subset List.mem_cons_self)

theorem fitting_of_absent {value : Str} (all : value.all legal = true)
    (trimmed : strip value = value) (absent : chr '<' ∉ value) : Fitting value :=
  ⟨all, trimmed, @breakFree_of_absent (chr '<') (Or.inl (by decide)) [] _ _ absent⟩

theorem fitting_null : Fitting (lit "null") :=
  fitting_of_absent (by decide) (by decide) (by decide)

theorem scalar_of_legal {point : CodePoint} (here : legal point = true) :
    point.isSurrogate = false := by
  rw [CodePoint.isSurrogate, Bool.and_eq_false_iff, decide_eq_false_iff_not,
    decide_eq_false_iff_not]
  have small : (chr '\t').val = 9 ∧ (chr '\n').val = 10 ∧ (chr '\r').val = 13 := ⟨rfl, rfl, rfl⟩
  simp only [legal, Bool.or_eq_true, Bool.and_eq_true, decide_eq_true_eq, beq_iff_eq] at here
  rcases here with ((((rfl | rfl) | rfl) | range) | range) | range <;> omega

theorem Fitting.encodable {value : Str} (fitting : Fitting value) : value.Encodable :=
  fun point member => scalar_of_legal (List.all_eq_true.1 fitting.legal point member)

theorem FittingFields.leaf_fitting (fields : FittingFields) {leaf : Str × Str}
    (member : leaf ∈ fields.leaves) : Fitting leaf.2 := by
  obtain ⟨value, among, same⟩ := leaf_value member
  rw [same]
  exact orNull_cases fitting_null (fields.fitting value among)

theorem renamed_writtenTags (fields : FittingFields) :
    (writtenTags fields.toOutboundFields).map (fun tag => (renamed tag.1, renamed tag.2)) =
      openingTags envelopeTag (lit "soap:Body") ++
        (fields.leaves.map fun leaf => (leaf.1, renamed leaf.2)).flatMap leafTags ++
        closingTags (lit "/soap:Envelope") (lit "/soap:Body") := by
  have opening : (openingTags
      (lit "ns0:Envelope xmlns:ns0=\"http://schemas.xmlsoap.org/soap/envelope/\"")
      (lit "ns0:Body")).map (fun tag => (renamed tag.1, renamed tag.2)) =
        openingTags envelopeTag (lit "soap:Body") := by decide +kernel
  have closing : (closingTags (lit "/ns0:Envelope") (lit "/ns0:Body")).map
      (fun tag => (renamed tag.1, renamed tag.2)) =
        closingTags (lit "/soap:Envelope") (lit "/soap:Body") := by decide +kernel
  rw [writtenTags, List.map_append, List.map_append, opening, closing, map_leafTags]
  intro leaf member
  obtain ⟨⟨name, end_⟩, _⟩ := leafNames_untouched _ (leaf_name member)
  rw [name, end_, renamed_xmlText (fields.leaf_fitting member).encodable]
  exact ⟨rfl, rfl⟩

theorem retagged_renamedTags (fields : FittingFields) :
    retagged envelopeTag declaringTag
        (openingTags envelopeTag (lit "soap:Body") ++
          (fields.leaves.map fun leaf => (leaf.1, renamed leaf.2)).flatMap leafTags ++
          closingTags (lit "/soap:Envelope") (lit "/soap:Body")) =
      sentTags fields.toOutboundFields := by
  have opening : retagged envelopeTag declaringTag
      (openingTags envelopeTag (lit "soap:Body")) = openingTags declaringTag (lit "soap:Body") := by
    decide +kernel
  have closing : retagged envelopeTag declaringTag
      (closingTags (lit "/soap:Envelope") (lit "/soap:Body")) =
        closingTags (lit "/soap:Envelope") (lit "/soap:Body") := by decide +kernel
  rw [retagged] at opening closing
  rw [retagged, sentTags, List.map_append, List.map_append, opening, closing,
    @map_leafTags _ _ id]
  · rw [List.map_map]
    rfl
  · intro leaf member
    obtain ⟨source, among, rfl⟩ := List.mem_map.1 member
    obtain ⟨_, ⟨name, end_⟩, _⟩ := leafNames_untouched _ (leaf_name among)
    rw [if_neg name, if_neg end_]
    exact ⟨rfl, rfl⟩

theorem unmarked_renamedTags (fields : FittingFields) :
    TagsUnmarked (openingTags envelopeTag (lit "soap:Body") ++
      (fields.leaves.map fun leaf => (leaf.1, renamed leaf.2)).flatMap leafTags ++
      closingTags (lit "/soap:Envelope") (lit "/soap:Body")) := by
  refine forall_tags (by decide +kernel) (by decide +kernel) ?_
  intro leaf member
  obtain ⟨source, among, rfl⟩ := List.mem_map.1 member
  obtain ⟨_, _, ⟨name, end_⟩, _⟩ := leafNames_untouched _ (leaf_name among)
  have scalar := encodable_renamed (fields.leaf_fitting among).encodable
  exact ⟨⟨name, unmarked_xmlText scalar⟩, end_, List.not_mem_nil, List.not_mem_nil⟩

theorem breakFree_sentTags (fields : FittingFields) :
    BreakFree (lit "&lt;") (lit "&gt;") (spelled (sentTags fields.toOutboundFields)) := by
  have plain : ∀ tag : Str × Str, chr '&' ∉ tag.1 ∧ chr '&' ∉ tag.2 →
      chr '&' ∉ tag.1 ∧ BreakFree (lit "&lt;") (lit "&gt;") tag.2 := fun tag absent =>
    ⟨absent.1, @breakFree_of_absent (chr '&') (Or.inl (by decide)) (lit "lt;") _ _ absent.2⟩
  have opening : ∀ tag ∈ openingTags declaringTag (lit "soap:Body"),
      chr '&' ∉ tag.1 ∧ chr '&' ∉ tag.2 := by decide +kernel
  have closing : ∀ tag ∈ closingTags (lit "/soap:Envelope") (lit "/soap:Body"),
      chr '&' ∉ tag.1 ∧ chr '&' ∉ tag.2 := by decide +kernel
  refine breakFree_spelled (forall_tags (fun tag member => plain tag (opening tag member))
    (fun tag member => plain tag (closing tag member)) ?_)
  intro leaf member
  obtain ⟨source, among, rfl⟩ := List.mem_map.1 member
  obtain ⟨_, _, _, name, end_⟩ := leafNames_untouched _ (leaf_name among)
  have fitting := fields.leaf_fitting among
  exact ⟨⟨name, breakFree_xmlText (encodable_renamed fitting.encodable)
    (breakFree_renamed fitting.breakFree)⟩, plain _ ⟨end_, List.not_mem_nil⟩⟩

theorem buildOutboundEnvelope_eq (fields : FittingFields) :
    buildOutboundEnvelope fields.toOutboundFields =
      spelled (sentTags fields.toOutboundFields) := by
  rw [buildOutboundEnvelope, serialised_eq, renamed_spelled, renamed_writtenTags,
    replaceAll_tag (by decide) (unmarked_renamedTags fields), retagged_renamedTags]
  exact unescapeBreaks_of_free (breakFree_sentTags fields) _

end Halotel

end UssdGateway
