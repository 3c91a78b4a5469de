import UssdGateway.Gateway.HalotelEnvelope

/-!
The envelope that is pushed to Halotel, read back as the gateway reads Halotel's own.
-/

namespace UssdGateway

namespace Halotel

open Xml Str

def envelopeAttributes : List (Str × Str) :=
  [(lit "xmlns:soap", lit "http://schemas.xmlsoap.org/soap/envelope/"),
    (lit "xmlns:xsi", lit "http://www.w3.org/2001/XMLSchema-instance"),
    (lit "xmlns:xsd", lit "http://www.w3.org/2001/XMLSchema")]

def insertMoAttributes : List (Str × Str) := [(lit "xmlns", lit "http://tempuri.org/")]

def envelopeFrame : Frame :=
  ⟨lit "soap:Envelope", soapTag "Envelope", [], declared envelopeAttributes ++ [], []⟩

def bodyFrame : Frame :=
  ⟨lit "soap:Body", soapTag "Body", [], declared [] ++ envelopeFrame.scope, []⟩

def insertMoFrame : Frame :=
  ⟨lit "InsertMO", tempuriTag "InsertMO", [], declared insertMoAttributes ++ bodyFrame.scope, []⟩

def leafElement (leaf : Str × Str) : Element :=
  .node (lit "\x7bhttp://tempuri.org/\x7d" ++ leaf.1) (elementText (normalised false leaf.2)) []

def sentTree (leaves : List (Str × Str)) : Element :=
  .node (soapTag "Envelope") none
    [.node (soapTag "Body") none [.node (tempuriTag "InsertMO") none (leaves.map leafElement)]]

def LeafNamed (frame : Frame) (name : Str) : Prop :=
  readTag name = some (.opening name []) ∧ readTag (chr '/' :: name) = some (.closing name) ∧
    clark (declared [] ++ frame.scope) name = some (lit "\x7bhttp://tempuri.org/\x7d" ++ name)

instance (frame : Frame) (name : Str) : Decidable (LeafNamed frame name) :=
  inferInstanceAs (Decidable (_ ∧ _ ∧ _))

theorem leafNames_named : ∀ name ∈ leafNames, LeafNamed insertMoFrame name := by
  decide +kernel

theorem build_leaf {frame : Frame} {outer : List Frame} {leaf : Str × Str}
    {rest : List (Str × Str)} (named : LeafNamed frame leaf.1) (scalar : leaf.2.Encodable) :
    build (frame :: outer) (leafTags leaf ++ rest) =
      build (frame.withChild (leafElement leaf) :: outer) rest := by
  obtain ⟨opens, closes, tagged⟩ := named
  have opened := @openFrame_eq (frame :: outer) (normalised false leaf.2) leaf.1 [] _ tagged
  have empty : characterData [] = some [] := rfl
  rw [leafTags, List.cons_append, build_opening (characterData_xmlText scalar) opens opened,
    List.cons_append, build_closing empty closes rfl]
  rfl

theorem build_leaves {leaves : List (Str × Str)} {outer : List Frame} {rest : List (Str × Str)}
    (readable : ∀ leaf ∈ leaves, leaf.1 ∈ leafNames ∧ leaf.2.Encodable) {frame : Frame}
    (scope : frame.scope = insertMoFrame.scope) :
    build (frame :: outer) (leaves.flatMap leafTags ++ rest) =
      build ({ frame with children := frame.children ++ leaves.map leafElement } :: outer)
        rest := by
  induction leaves generalizing frame with
  | nil => rw [List.map_nil, List.append_nil]; rfl
  | cons leaf later ih =>
      obtain ⟨⟨name, scalar⟩, others⟩ := List.forall_mem_cons.1 readable
      have named : LeafNamed frame leaf.1 := by
        rw [LeafNamed, scope]
        exact leafNames_named _ name
      rw [List.flatMap_cons, List.append_assoc, build_leaf named scalar,
        @ih others (frame.withChild (leafElement leaf)) scope]
      simp [Frame.withChild]

theorem build_sentTags {leaves : List (Str × Str)}
    (readable : ∀ leaf ∈ leaves, leaf.1 ∈ leafNames ∧ leaf.2.Encodable) :
    build [] (openingTags declaringTag (lit "soap:Body") ++ leaves.flatMap leafTags ++
      closingTags (lit "/soap:Envelope") (lit "/soap:Body")) = some (sentTree leaves) := by
  have empty : characterData [] = some [] := rfl
  have line : characterData (lit "\n") = some (lit "\n") := rfl
  have declares : readTag (lit "?xml version='1.0' encoding='utf-8'?") = some .declaration := rfl
  have envelope : openFrame [] (lit "soap:Envelope") envelopeAttributes [] = some envelopeFrame :=
    openFrame_eq (by decide +kernel)
  have body : openFrame [envelopeFrame] (lit "soap:Body") [] [] = some bodyFrame :=
    openFrame_eq (by decide +kernel)
  have insertMo : openFrame [bodyFrame, envelopeFrame] (lit "InsertMO") insertMoAttributes [] =
      some insertMoFrame := openFrame_eq (by decide +kernel)
  have insertMoEnds : readTag (lit "/InsertMO") = some (.closing (lit "InsertMO")) := rfl
  have bodyEnds : readTag (lit "/soap:Body") = some (.closing (lit "soap:Body")) := rfl
  have envelopeEnds : readTag (lit "/soap:Envelope") = some (.closing (lit "soap:Envelope")) := rfl
  rw [openingTags, List.append_assoc, List.cons_append, List.cons_append, List.cons_append,
    List.cons_append, List.nil_append, build_declaration line declares (by decide),
    build_opening empty (by decide +kernel) envelope, build_opening empty (by decide +kernel) body,
    build_opening empty (by decide +kernel) insertMo, build_leaves readable rfl, closingTags,
    build_closing empty insertMoEnds, build_closing empty bodyEnds, build_last envelopeEnds]
  all_goals rfl

theorem leafNames_closed : ∀ name ∈ leafNames,
    (name.all legal = true ∧ (chr '/' :: name).all legal = true) ∧
      TagCloses name ∧ TagCloses (chr '/' :: name) := by
  decide +kernel

theorem fromstring_sentTags (fields : FittingFields) :
    fromstring (spelled (sentTags fields.toOutboundFields)) =
      some (sentTree (fields.leaves.map fun leaf => (leaf.1, renamed leaf.2))) := by
  have scalars : ∀ leaf ∈ fields.leaves, (renamed leaf.2).Encodable := fun leaf among =>
    encodable_renamed (fields.leaf_fitting among).encodable
  have characters : (spelled (sentTags fields.toOutboundFields)).all legal = true := by
    refine legal_spelled (forall_tags (by decide +kernel) (by decide +kernel) ?_)
    intro leaf member
    obtain ⟨source, among, rfl⟩ := List.mem_map.1 member
    obtain ⟨⟨name, end_⟩, _⟩ := leafNames_closed _ (leaf_name among)
    exact ⟨⟨name, legal_xmlText (scalars source among) (legal_renamed
      (fields.leaf_fitting among).legal)⟩, end_, rfl⟩
  have closes : ∀ tag ∈ sentTags fields.toOutboundFields, TagCloses tag.1 ∧ chr '<' ∉ tag.2 := by
    refine forall_tags (by decide +kernel) (by decide +kernel) ?_
    intro leaf member
    obtain ⟨source, among, rfl⟩ := List.mem_map.1 member
    obtain ⟨_, name, end_⟩ := leafNames_closed _ (leaf_name among)
    exact ⟨⟨name, (unmarked_xmlText (scalars source among)).1⟩, end_, List.not_mem_nil⟩
  rw [fromstring_spelled characters closes]
  refine build_sentTags fun leaf member => ?_
  obtain ⟨source, among, rfl⟩ := List.mem_map.1 member
  have name := leaf_name among
  exact ⟨name, scalars source among⟩

theorem insertMoText_eq (leaves : List (Str × Str)) (name : String) :
    insertMoText (.node (tempuriTag "InsertMO") none (leaves.map leafElement)) name =
      match leaves.find? (fun leaf => leaf.1 = lit name) with
      | some leaf => strip (normalised false leaf.2)
      | none => [] := by
  have same : ∀ leaf : Str × Str,
      ((leafElement leaf).tag = tempuriTag name) = (leaf.1 = lit name) := by
    intro leaf
    rw [leafElement, Element.tag, tempuriTag, List.append_cancel_left_eq]
  have found : (Element.node (tempuriTag "InsertMO") none (leaves.map leafElement)).find
      (tempuriTag name) = (leaves.find? fun leaf => leaf.1 = lit name).map leafElement := by
    rw [Element.find, Element.children, List.find?_map]
    simp only [Function.comp_def, same]
  rw [insertMoText, xtext, found]
  cases result : leaves.find? (fun leaf => leaf.1 = lit name) with
  | none => simp only [Option.map_none]
  | some leaf =>
      simp only [Option.map_some, leafElement, Element.text, elementText]
      split
      next empty => rw [empty]; rfl
      · rfl

def readValue (value : Str) : Str := strip (normalised false (renamed (orNull value)))

theorem parseSoap_sent (fields : FittingFields) (detail : Str) :
    parseSoap (soapBody detail (buildOutboundEnvelope fields.toOutboundFields)) =
      .ok { user := readValue fields.outUser, pass := readValue fields.outPass
            msisdn := readValue fields.msisdn, msg := readValue fields.msg
            sessionid := readValue fields.sessionid
            transactionid := readValue fields.transactionid
            requesttype := readValue fields.requestType
            ussdgwId := readValue fields.ussdgwId, imsi := [] } := by
  have content := fromstring_sentTags fields
  rw [buildOutboundEnvelope_eq]
  have filled : (spelled (sentTags fields.toOutboundFields)).isEmpty = false := rfl
  have insertMo : ∀ leaves, (sentTree leaves).find (soapTag "Body") =
      some (.node (soapTag "Body") none
        [.node (tempuriTag "InsertMO") none (leaves.map leafElement)]) := fun _ => rfl
  have children : ∀ leaves : List (Str × Str), (Element.node (soapTag "Body") none
      [.node (tempuriTag "InsertMO") none (leaves.map leafElement)]).find (tempuriTag "InsertMO") =
        some (.node (tempuriTag "InsertMO") none (leaves.map leafElement)) := fun _ => rfl
  rw [parseSoap, soapBody, content]
  simp only [filled, insertMo, children, soapFields, insertMoText_eq]
  rfl

theorem readValue_eq_iff {value : Str} (fitting : Fitting value) :
    readValue value = orNull value ↔ Unedited value := by
  have unedited : Unedited value ↔ Unedited (orNull value) := by
    rw [orNull]
    split
    next empty =>
      rw [empty]
      exact iff_of_true (by decide) (by decide)
    · rfl
  have trimmed : strip (orNull value) = orNull value :=
    (orNull_cases fitting_null fitting).trimmed
  rw [unedited, readValue]
  generalize orNull value = written at trimmed ⊢
  constructor
  · intro same
    have within := strip_sublist (normalised false (renamed written))
    have zeros : written.count (chr '0') ≤ (renamed written).count (chr '0') := by
      conv_lhs => rw [← same]
      exact (within.count_le _).trans (count_normalised_le (by decide) _ false)
    have first := @count_replaceAll_le (lit "ns0:") (lit "soap:") (by decide) (chr '0') (by decide)
      written
    have second := @count_replaceAll_le (lit "xmlns:ns0=") (lit "xmlns:soap=") (by decide)
      (chr '0') (by decide) (replaceAll (lit "ns0:") (lit "soap:") written)
    have unprefixed : ¬ lit "ns0:" <:+: written := by
      intro inside
      have less := first.2 inside
      rw [renamed] at zeros
      omega
    rw [renamed, replaceAll_of_absent unprefixed] at zeros
    rw [replaceAll_of_absent unprefixed] at second
    refine ⟨fun inside => ?_, unprefixed, fun inside => ?_⟩
    · rw [← same] at inside
      exact return_not_mem_normalised _ false (within.subset inside)
    · have less := second.2 inside
      omega
  · rintro ⟨unbroken, unprefixed, undeclared⟩
    have kept : renamed written = written := by
      rw [renamed, replaceAll_of_absent unprefixed, replaceAll_of_absent undeclared]
    rw [kept, normalised_of_absent unbroken, trimmed]

/-- The fields come back just where none holds a carriage return or the prefix. -/
theorem roundTrip_iff (fields : FittingFields) (detail : Str) :
    parseSoap (soapBody detail (buildOutboundEnvelope fields.toOutboundFields)) =
        .ok fields.readBack ↔ ∀ value ∈ fields.values, Unedited value := by
  rw [parseSoap_sent]
  have value := fields.fitting
  simp only [OutboundFields.values, List.forall_mem_cons] at value ⊢
  obtain ⟨outUser, outPass, msisdn, msg, sessionid, transactionid, requestType, ussdgwId, _⟩ :=
    value
  rw [← readValue_eq_iff outUser, ← readValue_eq_iff outPass, ← readValue_eq_iff msisdn,
    ← readValue_eq_iff msg, ← readValue_eq_iff sessionid, ← readValue_eq_iff transactionid,
    ← readValue_eq_iff requestType, ← readValue_eq_iff ussdgwId]
  simp [OutboundFields.readBack]

def prefixedFields : FittingFields where
  outUser := lit "gw"
  outPass := lit "secret"
  msisdn := lit "255620000001"
  msg := lit "DNS: ns0:53"
  sessionid := []
  transactionid := lit "W1-2-1395280360802"
  requestType := lit "202"
  ussdgwId := lit "1"
  fitting := by
    have fits : ∀ value ∈ [lit "gw", lit "secret", lit "255620000001", lit "DNS: ns0:53", [],
        lit "W1-2-1395280360802", lit "202", lit "1"],
        value.all legal = true ∧ strip value = value ∧ chr '<' ∉ value := by decide +kernel
    intro value member
    obtain ⟨all, trimmed, absent⟩ := fits value member
    exact fitting_of_absent all trimmed absent

theorem prefix_rewritten :
    parseSoap (soapBody [] (buildOutboundEnvelope prefixedFields.toOutboundFields)) ≠
      .ok prefixedFields.readBack := by
  rw [parseSoap_sent]
  intro same
  have msg := congrArg Fields.msg (Except.ok.inj same)
  exact absurd msg (by decide +kernel)

end Halotel

end UssdGateway
