import SealedExchange.Node.Basic
import SealedExchange.Proofs.Exchange.Agreement

/-! # Which payloads have an encoding

The binary layout can say every payload whose parts are not too long. A document can say every
payload that claims nothing about other messages and none that does, since the names of its members
would have to be hashes. A request whose payload was sealed fails for its codec in no other case.
-/

namespace SealedExchange

/-! ## What each codec can say -/

open Binary in
theorem Payload.writes_format_iff {p : Payload} : Payload.format.Writes p ↔ p.Fits := by
  constructor
  · intro hwrites
    obtain ⟨-, hwrites⟩ := Format.writes_pair_iff.mp hwrites
    obtain ⟨hcipherText, hwrites⟩ := Format.writes_pair_iff.mp hwrites
    obtain ⟨hnonce, hwrites⟩ := Format.writes_pair_iff.mp hwrites
    obtain ⟨hboxes, hwrites⟩ := Format.writes_pair_iff.mp hwrites
    obtain ⟨hrecipientNonce, hwrites⟩ := Format.writes_pair_iff.mp hwrites
    obtain ⟨hkeys, hwrites⟩ := Format.writes_pair_iff.mp hwrites
    obtain ⟨-, hwrites⟩ := Format.writes_pair_iff.mp hwrites
    obtain ⟨haffected, hwrites⟩ := Format.writes_pair_iff.mp hwrites
    obtain ⟨hexecHash, hwrites⟩ := Format.writes_pair_iff.mp hwrites
    obtain ⟨hmandatory, hgroupId⟩ := Format.writes_pair_iff.mp hwrites
    obtain ⟨hentries, hclaims⟩ := Format.writes_list_iff.mp haffected
    refine
      { cipherText := Format.writes_bytes_iff.mp hcipherText
        nonce := Format.writes_bytes_iff.mp hnonce
        boxes := ?_
        recipientNonce := Format.writes_bytes_iff.mp hrecipientNonce
        keys := (Format.writes_list_iff.mp hkeys).1
        affected := ⟨hentries, fun entry hentry => ?_⟩
        execHash := Format.writes_bytes_iff.mp hexecHash
        mandatory := (Format.writes_list_iff.mp hmandatory).1
        groupId := fun id hid =>
          Format.writes_bytes_iff.mp (Format.writes_option_iff.mp hgroupId id hid) }
    · obtain ⟨hlength, hall⟩ := Format.writes_list_iff.mp hboxes
      exact ⟨hlength, fun box hbox => Format.writes_bytes_iff.mp (hall box hbox)⟩
    · obtain ⟨hhash, hclaim⟩ := Format.writes_pair_iff.mp (hclaims entry hentry)
      exact ⟨Format.writes_bytes_iff.mp hhash, Format.writes_bytes_iff.mp hclaim⟩
  · intro hfits
    obtain ⟨bytes, hencode⟩ := hfits.exists_encode
    exact ⟨bytes, mapError_eq_ok_iff.mp hencode⟩

namespace Codec

/-- What a codec can say. -/
def Represents : Codec → Payload → Prop
  | .bincode, p => p.Fits
  | .json, p => p.affected.isEmpty = true

theorem exists_encode_iff {codec : Codec} {p : Payload} :
    (∃ bytes, codec.encode p = .ok bytes) ↔ codec.Represents p := by
  cases codec with
  | bincode =>
    have hencode : (∃ bytes, bincode.encode p = .ok bytes) ↔ Payload.format.Writes p :=
      exists_congr fun _ => mapError_eq_ok_iff
    exact hencode.trans Payload.writes_format_iff
  | json =>
    have hencode : (∃ bytes, json.encode p = .ok bytes) ↔
        ∃ bytes, Payload.Json.encode p = .ok bytes :=
      exists_congr fun _ => mapError_eq_ok_iff
    rw [hencode, Payload.Json.encode, Represents]
    split
    next hempty => exact iff_of_true ⟨_, rfl⟩ hempty
    next hclaims =>
      refine iff_of_false ?_ hclaims
      rintro ⟨bytes, hbytes⟩
      cases hbytes

end Codec

/-- A copy for a recipient is no longer than the payload. -/
theorem Payload.Fits.forRecipient {p copy : Payload} {key : PublicKey} (h : p.Fits)
    (hcopy : p.forRecipient key = some copy) : copy.Fits := by
  obtain ⟨box, hbox, rfl⟩ := forRecipient_eq_some_iff.mp hcopy
  have hlisted := mem_keys_of_boxFor?_eq_some hbox
  have hboxed : box ∈ p.boxes := by
    obtain ⟨before, after, hsplit, -⟩ := List.lookup_eq_some_iff.mp hbox
    have hentry : (key, box) ∈ p.boxed := hsplit ▸ List.mem_append_cons_self
    exact (List.of_mem_zip hentry).2
  refine { h with boxes := ⟨?_, ?_⟩, keys := ?_ }
  · exact Nat.lt_of_le_of_lt (List.length_pos_of_mem hboxed) h.boxes.1
  · intro other hother
    rw [List.mem_singleton.mp hother]
    exact h.boxes.2 box hboxed
  · refine Nat.lt_of_le_of_lt ?_ h.keys
    dsimp only
    split
    · exact List.length_pos_of_mem hlisted
    · have hless : (p.keys.filter (· ≠ key)).length < p.keys.length :=
        List.length_filter_lt_length_iff_exists.mpr ⟨key, hlisted, by simp⟩
      exact hless

theorem Codec.Represents.forRecipient {codec : Codec} {p copy : Payload} {key : PublicKey}
    (h : codec.Represents p) (hcopy : p.forRecipient key = some copy) : codec.Represents copy := by
  cases codec with
  | bincode => exact Payload.Fits.forRecipient h hcopy
  | json =>
    obtain ⟨box, -, rfl⟩ := Payload.forRecipient_eq_some_iff.mp hcopy
    exact h

/-! ## Requests that fail for their codec -/

/-- A request has failed because a codec could not write or read a payload. -/
def CodecFails {α : Type} (result : Except TransactionError α) : Prop :=
  ∃ e, result = .error (.codec e)

/-- Where the encoding of a payload decides whether a codec fails, what the codec can say decides it
too. -/
theorem codecFails_iff_of_encode {α : Type} {result : Except TransactionError α} {codec : Codec}
    {p : Payload} (herror : ∀ e, codec.encode p = .error e → CodecFails result)
    (hok : ∀ bytes, codec.encode p = .ok bytes → ¬CodecFails result) :
    CodecFails result ↔ ¬codec.Represents p := by
  rw [← Codec.exists_encode_iff]
  cases hencode : codec.encode p with
  | error e =>
    refine iff_of_true (herror e hencode) ?_
    rintro ⟨bytes, hbytes⟩
    cases hbytes
  | ok bytes => exact iff_of_false (hok bytes hencode) fun h => h ⟨bytes, rfl⟩

theorem Vault.codecFails_persist_iff (v : Vault) (p : Payload) (recipients : List PublicKey) :
    CodecFails (v.persist p recipients) ↔ ¬v.codec.Represents p := by
  refine codecFails_iff_of_encode (fun e hencode => ?_) fun bytes hencode => ?_
  · rw [persist, EncryptedTransaction.ofPayload, hencode]
    exact ⟨e, rfl⟩
  · -- Once there are bytes, only the store can fail.
    rw [persist, EncryptedTransaction.ofPayload, hencode]
    rintro ⟨e, hfails⟩
    change ((v.messages.save ⟨p.hash, bytes, v.codec⟩).mapError TransactionError.storage >>= _) = _
      at hfails
    cases hsave : v.messages.save ⟨p.hash, bytes, v.codec⟩ with
    | error reason =>
      rw [hsave] at hfails
      cases hfails
    | ok messages =>
      rw [hsave] at hfails
      cases hfails

theorem Node.codecFails_createPayload_iff {n : Node} {body : Bytes} {parsed : Api.SendBody}
    {request : SendRequest} {entropy rest : Entropy} {p : Payload}
    (hbody : Api.readBody Api.SendBody.reader body = .ok parsed)
    (hrequest : parsed.request n.vault.enclave.defaultKey = .ok request)
    (hcreate : n.vault.create request entropy = (.ok p, rest)) :
    CodecFails (n.createPayload body entropy).1 ↔ ¬Codec.json.Represents p := by
  have hread : n.createPayload body entropy =
      (n.vault.create request >>= fun p =>
        Drawing.ofExcept ((Codec.json.encode p).mapError .codec) >>= fun encoded =>
          (pure { status := 200, contentType := .json, body := encoded } :
            Drawing TransactionError Http.Response)) entropy := by
    rw [createPayload, hbody]
    change (Drawing.ofExcept (parsed.request n.vault.enclave.defaultKey) >>= _ :
      Drawing TransactionError Http.Response) entropy = _
    rw [hrequest]
    rfl
  rw [hread, bind_of_ok hcreate]
  refine codecFails_iff_of_encode (fun e hencode => ?_) fun bytes hencode => ?_
  · rw [hencode]
    exact ⟨e, rfl⟩
  · rw [hencode]
    rintro ⟨e, hfails⟩
    cases hfails

/-- A codec can write exactly the payloads that it can say. A request to send or to create whose
payload was prepared and sealed fails for a codec exactly when the codec of the vault, or the form
of documents, cannot say that payload. -/
theorem Node.codecFails_iff_not_represents (n : Node) :
    (∀ (codec : Codec) p, (∃ bytes, codec.encode p = .ok bytes) ↔ codec.Represents p) ∧
    (∀ request entropy prepared p rest,
      n.vault.prepare request.sender request.recipients request.privacy = .ok prepared →
      n.vault.enclave.encryptPayload request.message request.sender prepared.recipients
        prepared.metadata entropy = (.ok p, rest) →
      (CodecFails (n.vault.send request entropy).1 ↔ ¬n.vault.codec.Represents p)) ∧
    (∀ request entropy record prepared p rest,
      n.vault.raws.retrieve request.hash = .ok (some record) →
      n.vault.prepare record.sender request.recipients request.privacy = .ok prepared →
      n.vault.enclave.encryptRawPayload record.toRaw prepared.recipients prepared.metadata entropy =
        (.ok p, rest) →
      (CodecFails (n.vault.sendSigned request entropy).1 ↔ ¬n.vault.codec.Represents p)) ∧
    ∀ body parsed request entropy p rest,
      Api.readBody Api.SendBody.reader body = .ok parsed →
      parsed.request n.vault.enclave.defaultKey = .ok request →
      n.vault.create request entropy = (.ok p, rest) →
      (CodecFails (n.createPayload body entropy).1 ↔ ¬Codec.json.Represents p) := by
  refine ⟨fun _ _ => Codec.exists_encode_iff, ?_, ?_, ?_⟩
  · intro request entropy prepared p rest hprepare hencrypt
    rw [Vault.send_eq_persist hprepare hencrypt]
    exact Vault.codecFails_persist_iff _ _ _
  · intro request entropy record prepared p rest hretrieve hprepare hencrypt
    rw [Vault.sendSigned_eq_persist hretrieve hprepare hencrypt]
    exact Vault.codecFails_persist_iff _ _ _
  · intro body parsed request entropy p rest hbody hrequest hcreate
    exact codecFails_createPayload_iff hbody hrequest hcreate

/-! ## A reply that has no document -/

namespace Vault

/-- The vault that keeps the message replied to and a draft of the reply, with a codec. -/
def answering (codec : Codec) : Vault :=
  { keeping (holding 1 []) known with
    codec
    raws := { records := SortedMap.empty.insert ⟨[9]⟩ (.ofRaw draft) } }

/-- A request to send the reply. -/
def replyRequest : SendRequest where
  message := [8]
  sender := .filled 1
  recipients := [.filled 2]
  privacy := affecting

/-- A request to send the draft as the reply. -/
def draftRequest : SendSignedRequest where
  hash := ⟨[9]⟩
  recipients := [.filled 2]
  privacy := affecting

/-- What the reply is sealed with. -/
def replyPrepared : Prepared where
  recipients := [.filled 2, .filled 1]
  metadata := metadataFor affecting [⟨⟨[1]⟩, known⟩] [.filled 2, .filled 1]

/-- The body of a request for the reply. -/
def replyBody : Api.SendBody where
  payload := "CA=="
  recipients := ["AgICAgICAgICAgICAgICAgICAgICAgICAgICAgICAgI="]
  privacy := { flag := 1, affected := ["AQ=="] }

theorem prepare_answering (codec : Codec) :
    (answering codec).prepare (.filled 1) [.filled 2] affecting = .ok replyPrepared := by
  change (Privacy.findAffected (keeping (holding 1 []) known).messages affecting.affected >>= _ :
    Except TransactionError Prepared) = _
  rw [findAffected_keeping]
  rfl

theorem exists_encrypt_reply : ∃ rest, (holding 1 []).encryptPayload [8] (.filled 1)
    replyPrepared.recipients replyPrepared.metadata (repeating 9) = (.ok reply, rest) :=
  ⟨_, rfl⟩

theorem exists_encryptRaw_draft : ∃ p rest, (holding 1 []).encryptRawPayload
    (EncryptedRawTransaction.ofRaw draft).toRaw replyPrepared.recipients replyPrepared.metadata
      (repeating 9) = (.ok p, rest) ∧ ¬Codec.json.Represents p := by
  refine ⟨_, _, rfl, fun hclaimless => ?_⟩
  have hclaims : replyPrepared.metadata.affected.isEmpty = false := rfl
  exact Bool.false_ne_true (hclaims.symm.trans hclaimless)

theorem not_represents_reply : ¬Codec.json.Represents reply := by
  have hclaims : reply.affected.isEmpty = false := rfl
  exact fun hclaimless => Bool.false_ne_true (hclaims.symm.trans hclaimless)

theorem request_replyBody : replyBody.request (.filled 1) = .ok replyRequest := by
  rfl

theorem fits_reply : reply.Fits :=
  { fits_replyCopy with boxes := by decide +kernel, affected := fits_replyCopy.affected }

/-- The reply in the making. -/
def replyDraft : Payload.Draft :=
  { reply with sender := some reply.sender, cipherText := some reply.cipherText }

/-- The reply can be built and its parts are not too long, and yet it has no document; the request
to send it is prepared and sealed and fails all the same. -/
theorem not_every_payload_encodes :
    (¬∀ (codec : Codec) (d : Payload.Draft) (p : Payload), d.build = .ok p → p.Fits →
      ∃ bytes, codec.encode p = .ok bytes) ∧
    ¬∀ (v : Vault) (request : SendRequest) (entropy : Entropy) (prepared : Prepared) (p : Payload)
        (rest : Entropy),
      v.prepare request.sender request.recipients request.privacy = .ok prepared →
      v.enclave.encryptPayload request.message request.sender prepared.recipients prepared.metadata
        entropy = (.ok p, rest) →
      ¬CodecFails (v.send request entropy).1 := by
  constructor
  · intro hencodes
    have hbuild : replyDraft.build = .ok reply := rfl
    exact not_represents_reply
      (Codec.exists_encode_iff.mp (hencodes .json replyDraft reply hbuild fits_reply))
  · intro hnever
    obtain ⟨rest, hsealed⟩ := exists_encrypt_reply
    refine hnever (answering .json) replyRequest (repeating 9) replyPrepared reply rest
      (prepare_answering .json) hsealed ?_
    have hsend : (answering .json).send replyRequest (repeating 9) =
        ((answering .json).persist reply replyPrepared.recipients, rest) :=
      send_eq_persist (prepare_answering .json) hsealed
    rw [hsend]
    exact (codecFails_persist_iff _ _ _).mpr not_represents_reply

end Vault

namespace Node

open Vault

/-- A node with that vault that knows no other node. -/
def answeringNode (codec : Codec) : Node where
  vault := answering codec
  registry := .new "http://self" .empty []

/-- In the binary layout the reply can be sent; as a document it cannot, whether it is sealed from
the message or from the draft, and no node hands it out. -/
theorem codecFails_iff_not_represents_reply :
    ¬CodecFails ((answering .bincode).send replyRequest (repeating 9)).1 ∧
      CodecFails ((answering .json).send replyRequest (repeating 9)).1 ∧
      CodecFails ((answering .json).sendSigned draftRequest (repeating 9)).1 ∧
      CodecFails ((answeringNode .bincode).createPayload replyBody.document.render
        (repeating 9)).1 := by
  obtain ⟨rest, hsealed⟩ := exists_encrypt_reply
  obtain ⟨p, rest', haddressed, hp⟩ := exists_encryptRaw_draft
  have hread : Api.readBody Api.SendBody.reader replyBody.document.render = .ok replyBody := by
    decide +kernel
  have hretrieve : (answering .json).raws.retrieve ⟨[9]⟩ = .ok (some (.ofRaw draft)) := rfl
  have hcreate : (answering .bincode).create replyRequest (repeating 9) =
      (.ok Vault.reply, rest) := by
    rw [Vault.create, show (answering .bincode).prepare replyRequest.sender replyRequest.recipients
      replyRequest.privacy = .ok replyPrepared from prepare_answering _]
    exact Drawing.mapError_eq_ok_iff.mpr hsealed
  obtain ⟨-, hsend, -, hcreated⟩ := codecFails_iff_not_represents (answeringNode .bincode)
  obtain ⟨-, hsend', hsigned, -⟩ := codecFails_iff_not_represents (answeringNode .json)
  refine ⟨fun hfails => ?_, ?_, ?_, ?_⟩
  · have hsent := hsend replyRequest _ replyPrepared Vault.reply rest (prepare_answering _) hsealed
    exact hsent.mp hfails fits_reply
  · have hsent := hsend' replyRequest _ replyPrepared Vault.reply rest (prepare_answering _) hsealed
    exact hsent.mpr not_represents_reply
  · have hsent := hsigned draftRequest _ _ replyPrepared p rest' hretrieve (prepare_answering _)
      haddressed
    exact hsent.mpr hp
  · have hmade := hcreated _ replyBody replyRequest _ Vault.reply rest hread request_replyBody
      hcreate
    exact hmade.mpr not_represents_reply

end Node

end SealedExchange
