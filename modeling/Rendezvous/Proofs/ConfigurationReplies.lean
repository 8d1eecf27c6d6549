/-
# Replies with the configuration

A reply is read back. It is text, an object of a word of success, the configuration and the
token of the request, and the configuration lists the servers, each of them an object with
its address. However the addresses have to be escaped, each is decoded as it was, and no
other row of addresses can be read out of the reply.
-/

import Mathlib.Data.List.Forall2
import Rendezvous.Proofs.Interjections
import Rendezvous.Proofs.Lists
import Rendezvous.Proofs.WrittenTexts

namespace Rendezvous

open Json

/-- The text is an object of one member. -/
def HoldsOnly (text : Octets) (name : String) (value : Octets) : Prop :=
  Frame.read text = .ok ⟨[(Octets.ofText name, value)]⟩

/-- The text is an object with nothing but the address of a server. -/
def NamesServer (text : Octets) (url : String) : Prop :=
  ∃ raw, HoldsOnly text "url" raw ∧ decodeString? raw = some (Octets.ofText url)

/-- The text is an object with nothing but a configuration, and that with nothing but a list
of servers, one for each address and in the order of the addresses. -/
def Configures (text : Octets) (urls : List String) : Prop :=
  ∃ configuration servers elements, HoldsOnly text "configuration" configuration ∧
    HoldsOnly configuration "iceServers" servers ∧ servers ∈ listTexts elements ∧
    List.Forall₂ NamesServer elements urls

/-- What a reply with the configuration says. -/
structure RepliesWith (text : Octets) (urls : List String) (msgId : Option Octets)
    (code result : Octets) : Prop where
  /-- It is text if the token is. -/
  isText : (∀ token ∈ msgId, Octets.IsText token) → Octets.IsText text
  /-- It has these members and no others, in this order. -/
  members : Frame.read text = .ok ⟨(Octets.ofText "code", code) ::
    (Octets.ofText "result", result) ::
      (msgId.map fun token => (Octets.ofText "msg_id", token)).toList⟩
  succeeds : decodeString? code = some (Octets.ofText "success")
  configures : Configures result urls
  /-- Nothing else can be read out of it. -/
  unique : ∀ others, Configures result others → others = urls

section

variable {text value other : Octets} {name url url' : String} {urls others : List String}

theorem HoldsOnly.unique (holds : HoldsOnly text name value) (again : HoldsOnly text name other) :
    value = other := by
  have same := holds.symm.trans again
  cases same
  rfl

theorem NamesServer.unique (names : NamesServer text url) (again : NamesServer text url') :
    url = url' := by
  obtain ⟨raw, holds, decoded⟩ := names
  obtain ⟨raw', holds', decoded'⟩ := again
  obtain rfl := holds.unique holds'
  exact Octets.ofText_injective (Option.some.inj (decoded.symm.trans decoded'))

theorem Configures.unique (configures : Configures text urls) (again : Configures text others) :
    urls = others := by
  obtain ⟨configuration, servers, elements, outer, inner, row, each⟩ := configures
  obtain ⟨configuration', servers', elements', outer', inner', row', each'⟩ := again
  obtain rfl := outer.unique outer'
  obtain rfl := inner.unique inner'
  obtain rfl := listTexts_unique row row'
  have determined : Relator.RightUnique NamesServer := fun _ _ _ => NamesServer.unique
  exact determined.forall₂ each each'

/-- An object that is written with one member holds only that. -/
theorem holdsOnly_writeObject (known : value ∈ values) :
    HoldsOnly (writeObject [(name, value)]) name value := by
  have written : ∀ member ∈ [(name, value)], member.2 ∈ values :=
    List.forall_mem_singleton.mpr known
  exact Frame.read_eq_ok.mpr (writeObject_mem_objectTexts written)

theorem decodeString?_writeString (text : Octets) : decodeString? (writeString text) = some text :=
  decodeString?_eq_some.mpr (writeString_mem_spellings text)

/-- The servers of a configuration as values. -/
def PeerConfiguration.servers (configuration : PeerConfiguration) : List Octets :=
  configuration.iceServers.map fun url => writeObject [("url", writeString (.ofText url))]

theorem namesServer_servers (configuration : PeerConfiguration) :
    List.Forall₂ NamesServer configuration.servers configuration.iceServers := by
  rw [PeerConfiguration.servers, List.forall₂_map_left_iff]
  apply List.forall₂_same.mpr
  intro url _
  exact ⟨_, holdsOnly_writeObject (writeString_mem_values _), decodeString?_writeString _⟩

/-- What is written for a configuration is one of its servers, -/
theorem configures_result (configuration : PeerConfiguration) :
    Configures configuration.result configuration.iceServers := by
  have known : ∀ server ∈ configuration.servers, server ∈ values := by
    intro server listed
    obtain ⟨url, -, rfl⟩ := List.mem_map.mp listed
    exact writeObject_mem_values (List.forall_mem_singleton.mpr (writeString_mem_values _))
  exact ⟨_, _, _, holdsOnly_writeObject configuration.toJson_mem_values,
    holdsOnly_writeObject (writeList_mem_values known), writeList_mem_listTexts known,
    namesServer_servers configuration⟩

/-- and it is text. -/
theorem isText_result (configuration : PeerConfiguration) :
    Octets.IsText configuration.result := by
  have texts : ∀ server ∈ configuration.servers, Octets.IsText server := by
    intro server listed
    obtain ⟨url, -, rfl⟩ := List.mem_map.mp listed
    exact isText_writeObject_singleton "url" (isText_writeString url)
  apply isText_writeObject_singleton
  exact isText_writeObject_singleton "iceServers" (isText_writeList texts)

/-- A reply says which servers are configured, and under which token it was asked for. -/
theorem configuration_reads_back (urls : List String) (msgId : Option Octets)
    (known : ∀ token ∈ msgId, token ∈ values) :
    ∃ code result,
      RepliesWith (Outgoing.configuration ⟨urls⟩ msgId).toText urls msgId code result := by
  have written : ∀ member ∈ [("code", writeString (.ofText "success")),
      ("result", PeerConfiguration.result ⟨urls⟩)] ++
        (msgId.map fun token => ("msg_id", token)).toList, member.2 ∈ values := by
    have success := writeString_mem_values (.ofText "success")
    have result := PeerConfiguration.result_mem_values ⟨urls⟩
    cases msgId <;> simp_all
  have derived := Frame.read_eq_ok.mpr (writeObject_mem_objectTexts written)
  exact ⟨writeString (.ofText "success"), PeerConfiguration.result ⟨urls⟩, {
    isText := by
      intro texts
      apply isText_writeObject
      have success := isText_writeString "success"
      have result := isText_result ⟨urls⟩
      cases msgId <;> simp_all [PeerConfiguration.result]
    members := by cases msgId <;> exact derived
    succeeds := decodeString?_writeString _
    configures := configures_result ⟨urls⟩
    unique := fun others configures => configures.unique (configures_result ⟨urls⟩) }⟩

/-- Addresses that are empty, have to be escaped or are beyond ASCII. -/
def awkwardUrls : List String := ["", "stun:\"\\\n\t\u0001\u007f", "stun:ß€😀"]

/-- A token with blanks, a number beyond every double and half of a character. -/
def awkwardToken : Octets := .ofText "[1e999, \"\\ud800\"]"

theorem awkward_reads_back : (∀ token ∈ some awkwardToken, token ∈ values) ∧
    ∃ code result, RepliesWith (Outgoing.configuration ⟨awkwardUrls⟩ (some awkwardToken)).toText
      awkwardUrls (some awkwardToken) code result := by
  have heard : Request.parse (Outgoing.notify awkwardToken).toText =
      .ok (.notify awkwardToken) := by
    rfl
  have known : ∀ token ∈ some awkwardToken, token ∈ values := by
    simpa using Request.mem_values_of_notify heard
  exact ⟨known, configuration_reads_back awkwardUrls (some awkwardToken) known⟩

end

end Rendezvous
