import Boltz.Sidecar.OfferSubscriptions
import Boltz.Utils

/-!
# Offers change only when their signers want it

Steps of requests and connections do not touch the table, and whatever happens side by side, what
was checked before a change is executed still holds then.
-/

namespace Boltz.Offers

open Async Caches

variable {lib : Lib} {s s' : State lib} {op : Op lib}

/-- The library decodes the lowercase text of an offer as the offer, and keys can be read back. -/
structure Lawful (lib : Lib) : Prop where
  decode_toLowercase : ∀ {offer issuer}, lib.decode offer = .ok (.offer issuer) →
    lib.decode (lib.toLowercase offer) = .ok (.offer issuer)
  serialize_injective : Function.Injective lib.serialize

/-- Two keys, which sign with themselves. -/
def exampleLib : Lib where
  PublicKey := UInt8
  Signature := UInt8
  serialize key := [key]
  decode text :=
    if text = "lno1" then .ok (.offer (some 1))
    else if text = "lno2" then .ok (.offer (some 2))
    else if text = "lni1" then .ok (.bolt12 1)
    else .error "invalid invoice"
  requestIssuer request := .ok request.head?
  toLowercase text := text
  hexEncode bytes := if bytes = [1] then "01" else "02"
  hexDecode text := if text = "01" then .ok [1] else .error "invalid"
  signatureFromSlice bytes :=
    match bytes with
    | [signature] => .ok signature
    | _ => .error "malformed signature"
  verifySchnorr signature _ key := signature = key
  validateUrl _ := .ok ()
  hashKey key := key.toUInt64
  hashRequest request := if request = "01" then 1 else 2
  invoiceOf _ := none
  errorOf _ := .error "missing field"

theorem lawful_exampleLib : Lawful exampleLib where
  decode_toLowercase h := h
  serialize_injective _ _ h := List.singleton_inj.mp h

/-! ## Steps of calls -/

/-- What a step of a call does. -/
inductive Call.Moves (s : Shared) (call : Call lib) : Shared → Call lib → Prop
  | failed (err : String) : Moves s call s (call.finish (.error err))
  | owned {offerId : OfferId} {offer : String} {connectionId : ConnectionId} :
    call.stage = .looking → offerIdOf lib call.hook.offer = some offerId →
      s.allOffers offerId = some (offer, connectionId) →
      Moves s call s { call with stage := .owned connectionId }
  | nobody : call.stage = .looking → Moves s call s { call with stage := .falling }
  | found {connectionId : ConnectionId} {sender : Channel} :
    call.stage = .owned connectionId → s.offerSubscriptions connectionId = some sender →
      Moves s call s { call with stage := .reaching sender }
  | lost {connectionId : ConnectionId} :
    call.stage = .owned connectionId → s.offerSubscriptions connectionId = none →
      Moves s call s { call with stage := .lost connectionId }
  | cleaned {connectionId : ConnectionId} :
    call.stage = .lost connectionId →
      Moves s call (call.cleanup s connectionId) { call with stage := .falling }
  | inserted {sender : Channel} : call.stage = .reaching sender →
      Moves s call
        { s with
          pendingHooks := TimeoutMap.insert s.now INVOICE_REQUEST_TIMEOUT s.pendingHooks
            (call.hook.id lib) call.hook }
        { call with stage := .sending sender s.now }
  | unsent {sender : Channel} {since : Nat} : call.stage = .sending sender since →
      s.channels sender = none →
      Moves s call
        { s with pendingHooks := (TimeoutMap.remove s.now s.pendingHooks (call.hook.id lib)).2 }
        (call.finish (.error "channel closed"))
  | sent {sender : Channel} {since : Nat} {hooks : List InvoiceHook} :
    call.stage = .sending sender since → s.channels sender = some hooks →
      Moves s call
        { s with channels := Function.update s.channels sender (some (hooks ++ [call.hook])) }
        { call with stage := .waiting since (s.now + call.websocketTimeout) }
  | skipped {since deadline : Nat} {response : InvoiceResponse}
      {responses : List InvoiceResponse} : call.stage = .waiting since deadline →
      call.responses = response :: responses → response.1.id lib ≠ call.hook.id lib →
      Moves s call s { call with responses := responses }
  | responded {since deadline : Nat} {response : InvoiceResponse}
      {responses : List InvoiceResponse} : call.stage = .waiting since deadline →
      call.responses = response :: responses → response.1.id lib = call.hook.id lib →
      Moves s call s ({ call with responses := responses }.finish
        (handleResponse lib call.row response.2))
  | timedOut {since deadline : Nat} : call.stage = .waiting since deadline →
      Moves s call s { call with stage := .falling }
  | calling : call.stage = .falling → Moves s call s { call with stage := .calling }
  | called {deadline : Nat} : call.stage = .calling →
      Moves s call s { call with stage := .waitingWebhook deadline }
  | skippedCall {deadline : Nat} {successfulCalls : List (InvoiceHook × Bytes)} :
    call.stage = .waitingWebhook deadline →
      Moves s call s { call with successfulCalls := successfulCalls }
  | answered {deadline : Nat} {success : InvoiceHook × Bytes}
      {successfulCalls : List (InvoiceHook × Bytes)} : call.stage = .waitingWebhook deadline →
      call.successfulCalls = success :: successfulCalls →
      Moves s call s ({ call with successfulCalls := successfulCalls }.finish
        (handleBody lib call.row success.2))

section

variable {shared shared' : Shared} {call call' : Call lib} {callOp : CallOp}

theorem moves_of_send {sender : Channel} {since : Nat} (hstage : call.stage = .sending sender since)
    (h : call.send shared sender since = some (shared', call')) :
    call.Moves shared shared' call' := by
  unfold Call.send at h
  split at h
  · rename_i hclosed
    cases h
    exact .unsent hstage hclosed
  · rename_i hooks hchannel
    split at h
    · cases h
      exact .sent hstage hchannel
    · cases h

theorem moves_of_receive {since deadline : Nat} (hstage : call.stage = .waiting since deadline)
    (h : call.receive = some call') : call.Moves shared shared call' := by
  unfold Call.receive at h
  split at h
  · cases h
    exact .failed _
  · cases h
  · rename_i hook res responses hresponses
    split at h
    · rename_i hid
      cases h
      exact .responded hstage hresponses hid
    · rename_i hid
      cases h
      exact .skipped hstage hresponses hid

theorem moves_of_receiveCall {deadline : Nat} (hstage : call.stage = .waitingWebhook deadline)
    (h : call.receiveCall = some call') : call.Moves shared shared call' := by
  unfold Call.receiveCall at h
  split at h
  · cases h
    exact .failed _
  · cases h
  · rename_i hook data successfulCalls hcalls
    split at h
    · cases h
      exact .answered hstage hcalls
    · cases h
      exact .skippedCall hstage

theorem moves_of_lookup (hstage : call.stage = .looking) :
    call.Moves shared shared (call.lookup shared) := by
  unfold Call.lookup
  split
  · exact .failed _
  · rename_i key offerId hhash
    split
    · rename_i hentry
      exact .owned hstage (by rw [offerIdOf, hhash]; rfl) hentry
    · exact .nobody hstage

theorem Call.moves_of_step (h : call.step shared callOp = some (shared', call')) :
    call.Moves shared shared' call' := by
  unfold Call.step at h
  split at h
  case h_1 hstage =>
    cases h
    exact moves_of_lookup hstage
  case h_2 hstage =>
    split at h
    · rename_i hsender
      cases h
      exact .found hstage hsender
    · rename_i hsender
      cases h
      exact .lost hstage hsender
  case h_3 hstage =>
    cases h
    exact .cleaned hstage
  case h_4 hstage =>
    cases h
    exact .inserted hstage
  case h_5 hstage => exact moves_of_send hstage h
  case h_6 hstage =>
    obtain ⟨next, hreceive, heq⟩ := Option.map_eq_some_iff.mp h
    cases heq
    exact moves_of_receive hstage hreceive
  case h_7 hstage =>
    split at h
    · cases h
      exact .timedOut hstage
    · cases h
  case h_8 hstage =>
    split at h
    · cases h
      exact .calling hstage
    · cases h
      exact .failed _
  case h_9 hstage =>
    cases h
    exact .called hstage
  case h_10 =>
    cases h
    exact .failed _
  case h_11 hstage =>
    obtain ⟨next, hreceive, heq⟩ := Option.map_eq_some_iff.mp h
    cases heq
    exact moves_of_receiveCall hstage hreceive
  case h_12 =>
    split at h
    · cases h
      exact .failed _
    · cases h
  case h_13 => cases h

end

/-! ## Steps of connections -/

/-- What a step of a connection does. -/
inductive State.Serves (s : State lib) (connectionId : ConnectionId) : Op lib → State lib → Prop
  | refused (op : Op lib) : Serves s connectionId op s
  | turned (op : Op lib) {socket socket' : Socket} : s.sockets connectionId = some socket →
      socket ≠ .pruned → (socket' = .idle ∨ ∃ offers, socket' = .unsubscribing offers) →
      Serves s connectionId op (s.setSocket connectionId (some socket'))
  | subscribed {offers : List InvoiceRequestParams} : s.sockets connectionId = some .idle →
      Serves s connectionId (.subscribe connectionId offers) (s.subscribe connectionId offers)
  | inserted {offer : String} {offerId : OfferId} {toInsert : List (String × OfferId)} :
      s.sockets connectionId = some (.subscribing ((offer, offerId) :: toInsert)) →
      Serves s connectionId (.insertNext connectionId)
        { s.setSocket connectionId (some (.subscribing toInsert)) with
          allOffers := Function.update s.allOffers offerId (some (offer, connectionId)) }
  | removed {offer : String} {offers : List String} {key : lib.PublicKey} {offerId : OfferId} :
      s.sockets connectionId = some (.unsubscribing (offer :: offers)) →
      hashOffer lib offer = .ok (key, offerId) →
      Serves s connectionId (.removeNext connectionId)
        { s.setSocket connectionId (some (.unsubscribing offers)) with
          allOffers := removeIfOwned s.allOffers offerId connectionId }
  | delivered {channel : Channel} {hook : InvoiceHook} {hooks : List InvoiceHook} :
      s.offerSubscriptions connectionId = some channel →
      s.channels channel = some (hook :: hooks) →
      Serves s connectionId (.deliver connectionId)
        { s with
          channels := Function.update s.channels channel (some hooks)
          delivered := s.delivered ++ [(connectionId, hook)] }
  | closed {channel : Channel} : s.sockets connectionId = some .idle →
      Serves s connectionId (.close connectionId)
        { s.setSocket connectionId (some .closing) with
          channels := Function.update s.channels channel none }
  | pruned : s.sockets connectionId = some .closing →
      Serves s connectionId (.prune connectionId)
        { s.setSocket connectionId (some .pruned) with
          allOffers := fun offerId =>
            (s.allOffers offerId).filter fun entry => entry.2 ≠ connectionId }
  | forgotten : s.sockets connectionId = some .pruned →
      Serves s connectionId (.forget connectionId)
        { s.setSocket connectionId none with
          offerSubscriptions := Function.update s.offerSubscriptions connectionId none }

theorem State.serves_of_stepSocket {connectionId : ConnectionId} {socket : Socket}
    (hsocket : s.sockets connectionId = some socket)
    (hop : op.connection? = some connectionId)
    (h : s.stepSocket connectionId socket op = some s') : s.Serves connectionId op s' := by
  unfold State.stepSocket at h
  split at h
  case h_1 =>
    cases hop
    split at h
    · cases h
      exact .subscribed hsocket
    · cases h
  case h_2 =>
    cases hop
    split at h
    · cases h
      exact .turned _ hsocket (fun hpruned => nomatch hpruned) (.inl rfl)
    · cases h
      exact .inserted hsocket
    · cases h
  case h_3 =>
    cases hop
    split at h
    · cases h
      exact .turned _ hsocket (fun hpruned => nomatch hpruned) (.inr ⟨_, rfl⟩)
    · cases h
  case h_4 =>
    cases hop
    split at h
    · cases h
      exact .turned _ hsocket (fun hpruned => nomatch hpruned) (.inl rfl)
    · split at h
      · cases h
        exact .turned _ hsocket (fun hpruned => nomatch hpruned) (.inl rfl)
      · rename_i hhash
        cases h
        exact .removed hsocket hhash
    · cases h
  case h_5 =>
    cases hop
    split at h
    · rename_i hchannel
      split at h
      · rename_i hhooks
        cases h
        exact .delivered hchannel hhooks
      · cases h
    · cases h
  case h_6 =>
    cases hop
    split at h
    · cases h
      exact .closed hsocket
    · cases h
  case h_7 =>
    cases hop
    split at h
    · cases h
      exact .pruned hsocket
    · cases h
  case h_8 =>
    cases hop
    split at h
    · cases h
      exact .forgotten hsocket
    · cases h
  case h_9 => cases h

def ValidUrl (lib : Lib) (url : Option String) : Prop :=
  ∀ given ∈ url, lib.validateUrl given = .ok ()

/-- A row of the issuer of its offer, with a valid URL. -/
structure Registered (lib : Lib) (row : Offer) : Prop where
  issuer : ∃ key, lib.decode row.offer = .ok (.offer (some key)) ∧ row.signer = lib.serialize key
  url : ValidUrl lib row.url

/-- A change that the signer has signed. -/
def Signs (s : State lib) (signer : Bytes) (message : String) : Prop :=
  ∃ key, lib.serialize key = signer ∧ (key, message) ∈ s.signed

/-- What was checked before a statement is executed. -/
def Checked (s : State lib) : Statement → Prop
  | .insert row => Registered lib row
  | .update signer url => ValidUrl lib url ∧
    Signs s signer (url.getD OFFER_UPDATE_NO_URL_MESSAGE)
  | .delete signer => Signs s signer OFFER_DELETE_MESSAGE

section

variable {offers : List Offer} {offer : String} {url : Option String} {signature : Bytes}
variable {statement : Statement}

theorem prepareOffer_ok {signer : lib.PublicKey} (h : prepareOffer lib offer url = .ok signer) :
    lib.decode offer = .ok (.offer (some signer)) ∧ ValidUrl lib url := by
  obtain ⟨⟨⟩, hurl, h⟩ := bind_eq_ok.mp h
  obtain ⟨invoice, hdecode, h⟩ := bind_eq_ok.mp h
  constructor
  · split at h
    · cases h
      exact hdecode
    · cases h
    · cases h
  · rintro given rfl
    rw [checkUrl] at hurl
    cases hvalid : lib.validateUrl given with
    | ok a => rfl
    | error e =>
      rw [hvalid] at hurl
      cases hurl

theorem issuers_of_decode {signer : lib.PublicKey}
    (h : lib.decode offer = .ok (.offer (some signer))) : issuers lib offer = [signer] := by
  rw [issuers, hashOffer, h]
  rfl

theorem addOffer_ok (hlaw : Lawful lib) (h : addOffer lib offers offer url = .ok statement) :
    ∃ row, statement = .insert row ∧ Registered lib row := by
  obtain ⟨signer, hprepare, h⟩ := bind_eq_ok.mp h
  obtain ⟨hdecode, hurl⟩ := prepareOffer_ok hprepare
  split at h
  · cases h
  · cases h
    exact ⟨_, rfl, ⟨signer, hlaw.decode_toLowercase hdecode, rfl⟩, hurl⟩

theorem updateOffer_ok (h : updateOffer lib offers offer url signature = .ok statement) :
    ∃ signer, issuers lib offer = [signer] ∧ statement = .update (lib.serialize signer) url ∧
      ValidUrl lib url ∧
      schnorrSignatureValid lib signer signature (url.getD OFFER_UPDATE_NO_URL_MESSAGE) =
        .ok true := by
  obtain ⟨signer, hprepare, h⟩ := bind_eq_ok.mp h
  obtain ⟨hdecode, hurl⟩ := prepareOffer_ok hprepare
  split at h
  · cases h
  · obtain ⟨valid, hvalid, h⟩ := bind_eq_ok.mp h
    split at h
    · rename_i htrue
      cases h
      exact ⟨signer, issuers_of_decode hdecode, rfl, hurl, htrue ▸ hvalid⟩
    · cases h

theorem deleteOffer_ok (h : deleteOffer lib offers offer signature = .ok statement) :
    ∃ signer, issuers lib offer = [signer] ∧ statement = .delete (lib.serialize signer) ∧
      schnorrSignatureValid lib signer signature OFFER_DELETE_MESSAGE = .ok true := by
  obtain ⟨signer, hprepare, h⟩ := bind_eq_ok.mp h
  obtain ⟨hdecode, -⟩ := prepareOffer_ok hprepare
  split at h
  · cases h
  · obtain ⟨valid, hvalid, h⟩ := bind_eq_ok.mp h
    split at h
    · rename_i htrue
      cases h
      exact ⟨signer, issuers_of_decode hdecode, rfl, htrue ▸ hvalid⟩
    · cases h

end

/-- The invoice request of a call that an operation starts. -/
def Op.invoiceRequest? : Op lib → Option Bytes
  | .fetch _ invoiceRequest | .onionMessage invoiceRequest => some invoiceRequest
  | _ => none

/-- What a step does. -/
inductive State.Moves (s : State lib) : Op lib → State lib → Prop
  | same (op : Op lib) : Moves s op s
  | checked (op : Op lib) {statement : Statement} {signed : List (lib.PublicKey × String)} :
    Checked { s with signed := s.signed ++ signed } statement →
      (∀ entry ∈ signed, ∃ signature,
        schnorrSignatureValid lib entry.1 signature entry.2 = .ok true) →
      Moves s op
        { s with
          statements := s.statements ++ [statement]
          signed := s.signed ++ signed }
  | executed {i : Nat} {statement : Statement} : s.statements[i]? = some statement →
      Moves s (.execute i)
        { s with offers := statement.run s.offers, statements := s.statements.eraseIdx i }
  | connected {connectionId : ConnectionId} : s.offerSubscriptions connectionId = none →
      Moves s (.connect connectionId) (s.connect connectionId)
  | served {connectionId : ConnectionId} {op : Op lib} {s' : State lib} :
      s.Serves connectionId op s' → Moves s op s'
  | responded (hookId : HookId) (res : Except String String) : 
      Moves s (.respond hookId res) (s.respond hookId res)
  | broadcast {i : Nat} {response : InvoiceResponse} : s.answers[i]? = some response →
      Moves s (.broadcast i)
        { s with
          answers := s.answers.eraseIdx i
          calls := s.calls.map (·.addResponse response) }
  | started {op : Op lib} {row : Offer} {invoiceRequest : Bytes} :
      op.invoiceRequest? = some invoiceRequest → row ∈ s.offers →
      Moves s op (s.startCall row invoiceRequest)
  | called {i : Nat} {callOp : CallOp} {call call' : Call lib} {shared : Shared} :
      s.calls[i]? = some call → call.Moves s.toShared shared call' →
      Moves s (.call i callOp) { s with toShared := shared, calls := s.calls.set i call' }
  | webhook (success : InvoiceHook × Bytes) :
      Moves s (.webhook success.1 success.2)
        { s with calls := s.calls.map (·.addSuccessfulCall success) }
  | ticked : Moves s .tick { s with now := s.now + 1 }

theorem moves_of_change {offer message : String} {result : Except String Statement} (op : Op lib)
    (h : ∀ statement, result = .ok statement → ∃ signer signature,
      issuers lib offer = [signer] ∧
        Checked { s with signed := s.signed ++ [(signer, message)] } statement ∧
        schnorrSignatureValid lib signer signature message = .ok true) :
    s.Moves op (s.change offer message result) := by
  cases result with
  | error e => exact .same op
  | ok statement =>
    obtain ⟨signer, signature, hissuers, hchecked, hvalid⟩ := h statement rfl
    rw [State.change, hissuers]
    refine .checked op hchecked fun entry hentry => ⟨signature, ?_⟩
    rw [List.mem_singleton.mp hentry]
    exact hvalid

theorem State.moves_of_stepConnection (h : s.stepConnection op = some s') : s.Moves op s' := by
  unfold State.stepConnection at h
  split at h
  · rename_i hop
    split at h
    · rename_i hsocket
      exact .served (serves_of_stepSocket hsocket hop h)
    · cases h
  · cases h

theorem State.moves_of_step (hlaw : Lawful lib) (h : step s op = some s') : s.Moves op s' := by
  cases op with
  | addOffer offer url =>
    simp only [step] at h
    split at h
    · rename_i statement hadd
      cases h
      obtain ⟨row, rfl, hrow⟩ := addOffer_ok hlaw hadd
      have hmoves : s.Moves (.addOffer offer url)
          { s with
            statements := s.statements ++ [.insert row]
            signed := s.signed ++ [] } :=
        .checked _ hrow fun entry hentry => absurd hentry List.not_mem_nil
      rwa [List.append_nil] at hmoves
    · cases h
      exact .same _
  | updateOffer offer url signature =>
    cases h
    refine moves_of_change _ fun statement hupdate => ?_
    obtain ⟨signer, hissuers, rfl, hurl, hvalid⟩ := updateOffer_ok hupdate
    exact ⟨signer, signature, hissuers,
      ⟨hurl, signer, rfl, List.mem_append_right _ (List.mem_singleton_self _)⟩, hvalid⟩
  | deleteOffer offer signature =>
    cases h
    refine moves_of_change _ fun statement hdelete => ?_
    obtain ⟨signer, hissuers, rfl, hvalid⟩ := deleteOffer_ok hdelete
    exact ⟨signer, signature, hissuers,
      ⟨signer, rfl, List.mem_append_right _ (List.mem_singleton_self _)⟩, hvalid⟩
  | execute i =>
    simp only [step] at h
    split at h
    · rename_i hstatement
      cases h
      exact .executed hstatement
    · cases h
  | connect connectionId =>
    simp only [step] at h
    split at h
    · rename_i hnone
      cases h
      exact .connected (Option.isNone_iff_eq_none.mp hnone)
    · cases h
  | respond hookId res =>
    cases h
    exact .responded hookId res
  | broadcast i =>
    simp only [step] at h
    split at h
    · rename_i hanswer
      cases h
      exact .broadcast hanswer
    · cases h
  | fetch offer invoiceRequest =>
    simp only [step] at h
    split at h
    · rename_i hrow
      split at h
      · cases h
        exact .started rfl (List.mem_of_find?_eq_some hrow)
      · cases h
    · cases h
  | onionMessage invoiceRequest =>
    simp only [step] at h
    split at h
    · rename_i row hrow
      cases h
      obtain ⟨issuer, -, hrow⟩ := bind_eq_ok.mp hrow
      split at hrow
      · exact .started rfl (List.mem_of_find?_eq_some (Except.ok.inj hrow))
      · cases hrow
    · cases h
  | call i callOp =>
    simp only [step] at h
    split at h
    · rename_i call hcall
      obtain ⟨⟨shared, call'⟩, hstep, heq⟩ := Option.map_eq_some_iff.mp h
      cases heq
      exact .called hcall (Call.moves_of_step hstep)
    · cases h
  | webhook hook data =>
    cases h
    exact .webhook (hook, data)
  | tick =>
    cases h
    exact .ticked
  | subscribe _ _ | insertNext _ | unsubscribe _ _ | removeNext _ | deliver _ | close _ | prune _
  | forget _ => exact moves_of_stepConnection h

/-- Every operation that is possible. -/
def anyOp : State lib → Op lib → Bool := fun _ _ => true

/-- What every admitted step keeps. -/
theorem invariant_of_run (hlaw : Lawful lib) {admits : State lib → Op lib → Bool}
    (Inv : State lib → Prop)
    (hstep : ∀ s op s', Inv s → admits s op = true → s.Moves op s' → Inv s')
    {ops : List (Op lib)} (hinv : Inv s) (h : runFrom step admits s ops = some s') : Inv s' :=
  invariant_of_runFrom (fun _ _ _ hi hop h => hstep _ _ _ hi hop (State.moves_of_step hlaw h)) hinv h

/-! ## Registered offers -/

structure Registry (s : State lib) : Prop where
  signers : (s.offers.map Offer.signer).Nodup
  rows : ∀ row ∈ s.offers, Registered lib row
  statements : ∀ statement ∈ s.statements, Checked s statement
  signed : ∀ entry ∈ s.signed, ∃ signature,
    schnorrSignatureValid lib entry.1 signature entry.2 = .ok true

section

variable {signer : Bytes} {message : String}

theorem Signs.mono (h : Signs s signer message) (hsigned : s.signed ⊆ s'.signed) :
    Signs s' signer message := by
  obtain ⟨key, hkey, hmem⟩ := h
  exact ⟨key, hkey, hsigned hmem⟩

theorem Checked.mono {statement : Statement} (h : Checked s statement)
    (hsigned : s.signed ⊆ s'.signed) : Checked s' statement := by
  cases statement with
  | insert row => exact h
  | update signer url => exact ⟨h.1, h.2.mono hsigned⟩
  | delete signer => exact Signs.mono h hsigned

/-- A step that changes neither the table nor what was checked. -/
theorem Registry.congr (hi : Registry s) (hoffers : s'.offers = s.offers)
    (hstatements : s'.statements = s.statements) (hsigned : s'.signed = s.signed) :
    Registry s' where
  signers := by
    rw [hoffers]
    exact hi.signers
  rows := by
    rw [hoffers]
    exact hi.rows
  statements := by
    rw [hstatements]
    exact fun statement h => (hi.statements statement h).mono (hsigned ▸ List.Subset.refl _)
  signed := by
    rw [hsigned]
    exact hi.signed

end

/-- Who the table belongs to. -/
structure SameRegistry (s s' : State lib) : Prop where
  offers : s'.offers = s.offers
  statements : s'.statements = s.statements
  signed : s'.signed = s.signed

theorem State.Serves.sameRegistry {connectionId : ConnectionId} (h : s.Serves connectionId op s') :
    SameRegistry s s' := by
  cases h with
  | subscribed hsocket =>
    unfold State.subscribe
    split
    · exact ⟨rfl, rfl, rfl⟩
    · dsimp only
      split
      · exact ⟨rfl, rfl, rfl⟩
      · exact ⟨rfl, rfl, rfl⟩
  | _ => exact ⟨rfl, rfl, rfl⟩

theorem Call.Moves.offers_eq {shared shared' : Shared} {call call' : Call lib}
    (h : call.Moves shared shared' call') : shared'.offers = shared.offers := by
  cases h with
  | cleaned hstage =>
    unfold Call.cleanup
    split
    · rfl
    · rfl
  | _ => rfl

/-- A statement that was checked keeps the table in order. -/
theorem Registry.run {statement : Statement} (hi : Registry s) (hchecked : Checked s statement) :
    ((statement.run s.offers).map Offer.signer).Nodup ∧
      ∀ row ∈ statement.run s.offers, Registered lib row := by
  cases statement with
  | insert row =>
    rw [Statement.run]
    split
    · exact ⟨hi.signers, hi.rows⟩
    · rename_i hnew
      constructor
      · rw [List.map_append, List.nodup_append]
        refine ⟨hi.signers, List.pairwise_singleton _ _, fun signer hsigner other hother heq => ?_⟩
        obtain ⟨old, hold, rfl⟩ := List.mem_map.mp hsigner
        rw [List.map_singleton, List.mem_singleton] at hother
        refine hnew (List.find?_isSome.mpr ⟨old, hold, ?_⟩)
        exact decide_eq_true (heq.trans hother)
      · intro old hold
        rcases List.mem_append.mp hold with hold | hold
        · exact hi.rows old hold
        · rw [List.mem_singleton.mp hold]
          exact hchecked
  | update signer url =>
    rw [Statement.run]
    constructor
    · have hsame : ∀ row : Offer,
          (if row.signer = signer then { row with url := url } else row).signer = row.signer := by
        intro row
        split
        · rfl
        · rfl
      rw [List.map_map, Function.comp_def]
      simp only [hsame]
      exact hi.signers
    · intro row hrow
      obtain ⟨old, hold, rfl⟩ := List.mem_map.mp hrow
      have hregistered := hi.rows old hold
      split
      · exact ⟨hregistered.issuer, hchecked.1⟩
      · exact hregistered
  | delete signer =>
    rw [Statement.run]
    exact ⟨(List.filter_sublist.map _).nodup hi.signers,
      fun row hrow => hi.rows row (List.mem_filter.mp hrow).1⟩

theorem Registry.init : Registry (.init lib) where
  signers := List.nodup_nil
  rows := fun _ h => absurd h List.not_mem_nil
  statements := fun _ h => absurd h List.not_mem_nil
  signed := fun _ h => absurd h List.not_mem_nil

theorem Registry.step (hi : Registry s) (h : s.Moves op s') : Registry s' := by
  cases h with
  | checked _ hchecked hvalid =>
    refine ⟨hi.signers, hi.rows, fun other hother => ?_, fun entry hentry => ?_⟩
    · rcases List.mem_append.mp hother with hother | hother
      · exact (hi.statements other hother).mono (List.subset_append_left _ _)
      · rw [List.mem_singleton.mp hother]
        exact hchecked
    · rcases List.mem_append.mp hentry with hentry | hentry
      · exact hi.signed entry hentry
      · exact hvalid entry hentry
  | @executed i statement hstatement =>
    obtain ⟨hsigners, hrows⟩ := hi.run (hi.statements statement (List.mem_of_getElem? hstatement))
    exact ⟨hsigners, hrows,
      fun other hother => hi.statements other (List.mem_of_mem_eraseIdx hother), hi.signed⟩
  | served h =>
    have hsame := h.sameRegistry
    exact hi.congr hsame.offers hsame.statements hsame.signed
  | called _ h => exact hi.congr h.offers_eq rfl rfl
  | _ => exact hi.congr rfl rfl rfl

/-- What became of a row: it is still there, with the URL it had or one that was signed, or its
deletion was signed. -/
def Justified (s : State lib) (row : Offer) : Prop :=
  (∃ url, { row with url := url } ∈ s.offers ∧
    (url = row.url ∨ Signs s row.signer (url.getD OFFER_UPDATE_NO_URL_MESSAGE))) ∨
  Signs s row.signer OFFER_DELETE_MESSAGE

section

variable {row : Offer}

theorem Justified.congr (h : Justified s row) (hoffers : s'.offers = s.offers)
    (hsigned : s.signed ⊆ s'.signed) : Justified s' row := by
  obtain ⟨url, hmem, hurl⟩ | hdeleted := h
  · refine .inl ⟨url, hoffers ▸ hmem, hurl.imp_right fun hsigns => hsigns.mono hsigned⟩
  · exact .inr (hdeleted.mono hsigned)

theorem Justified.run {statement : Statement} (h : Justified s row) (hchecked : Checked s statement)
    (hoffers : s'.offers = statement.run s.offers) (hsigned : s'.signed = s.signed) :
    Justified s' row := by
  have hsub : s.signed ⊆ s'.signed := hsigned ▸ List.Subset.refl _
  obtain ⟨url, hmem, hurl⟩ | hdeleted := h
  · cases statement with
    | insert other =>
      refine .inl ⟨url, ?_, hurl.imp_right fun hsigns => hsigns.mono hsub⟩
      rw [hoffers, Statement.run]
      split
      · exact hmem
      · exact List.mem_append_left _ hmem
    | update signer url' =>
      have hrun : ∀ old ∈ s.offers,
          (if old.signer = signer then { old with url := url' } else old) ∈ s'.offers := by
        intro old hold
        rw [hoffers, Statement.run]
        exact List.mem_map_of_mem hold
      have hnew := hrun _ hmem
      by_cases hsigner : row.signer = signer
      · rw [if_pos hsigner] at hnew
        refine .inl ⟨url', hnew, .inr ?_⟩
        rw [hsigner]
        exact hchecked.2.mono hsub
      · rw [if_neg hsigner] at hnew
        exact .inl ⟨url, hnew, hurl.imp_right fun hsigns => hsigns.mono hsub⟩
    | delete signer =>
      by_cases hsigner : row.signer = signer
      · rw [← hsigner] at hchecked
        exact .inr (Signs.mono hchecked hsub)
      · refine .inl ⟨url, ?_, hurl.imp_right fun hsigns => hsigns.mono hsub⟩
        rw [hoffers, Statement.run]
        exact List.mem_filter.mpr ⟨hmem, decide_eq_true hsigner⟩
  · exact .inr (hdeleted.mono hsub)

theorem Justified.step (hi : Registry s) (hrow : Justified s row) (h : s.Moves op s') :
    Justified s' row := by
  cases h with
  | checked _ hchecked hvalid => exact hrow.congr rfl (List.subset_append_left _ _)
  | executed hstatement =>
    exact hrow.run (hi.statements _ (List.mem_of_getElem? hstatement)) rfl rfl
  | served h =>
    have hsame := h.sameRegistry
    exact hrow.congr hsame.offers (hsame.signed ▸ List.Subset.refl _)
  | called _ h => exact hrow.congr h.offers_eq (List.Subset.refl _)
  | _ => exact hrow.congr rfl (List.Subset.refl _)

/-- Every signer has one row, which is for an offer of the signer. It is not changed and not deleted
unless its signer signed the new URL, or the deletion. -/
theorem offers_change_signed (hlaw : Lawful lib) {ops ops' : List (Op lib)}
    (h : runFrom step anyOp (.init lib) ops = some s) (hrow : row ∈ s.offers)
    (h' : runFrom step anyOp s ops' = some s') :
    (s'.offers.map Offer.signer).Nodup ∧ (∀ row ∈ s'.offers, Registered lib row) ∧
      Justified s' row ∧
      ∀ entry ∈ s'.signed, ∃ signature,
        schnorrSignatureValid lib entry.1 signature entry.2 = .ok true := by
  have hregistry : Registry s :=
    invariant_of_run hlaw Registry (fun _ _ _ hi _ h => hi.step h) Registry.init h
  obtain ⟨hi, hjustified⟩ := invariant_of_run hlaw (fun s => Registry s ∧ Justified s row)
    (fun _ _ _ ⟨hi, hrow⟩ _ h => ⟨hi.step h, hrow.step hi h⟩)
    ⟨hregistry, .inl ⟨row.url, hrow, .inl rfl⟩⟩ h'
  exact ⟨hi.signers, hi.rows, hjustified, hi.signed⟩

/-- The signer of an offer that was added sets its URL. -/
theorem offers_change_signed_example : ∃ s s' : State exampleLib,
    runFrom step anyOp (.init exampleLib) [.addOffer "lno1" none, .execute 0] = some s ∧
    runFrom step anyOp s [.updateOffer "lno1" (some "https://bol.tz") [1], .execute 0] = some s' ∧
    (s'.offers.map Offer.signer).Nodup ∧ (∀ row ∈ s'.offers, Registered exampleLib row) ∧
      Justified s' { signer := [1], offer := "lno1", url := none } ∧
      ∀ entry ∈ s'.signed, ∃ signature,
        schnorrSignatureValid exampleLib entry.1 signature entry.2 = .ok true := by
  obtain ⟨s, s', h, hrow, h'⟩ : ∃ s s' : State exampleLib,
      runFrom step anyOp (.init exampleLib) [.addOffer "lno1" none, .execute 0] = some s ∧
      { signer := [1], offer := "lno1", url := none } ∈ s.offers ∧
      runFrom step anyOp s [.updateOffer "lno1" (some "https://bol.tz") [1], .execute 0] =
        some s' :=
    ⟨_, _, rfl, List.mem_singleton_self _, rfl⟩
  exact ⟨s, s', h, h', offers_change_signed lawful_exampleLib h hrow h'⟩

end

end Boltz.Offers
