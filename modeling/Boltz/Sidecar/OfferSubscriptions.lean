import Boltz.Async.Transitions
import Boltz.Caches.ExpiringMap
import Mathlib.Data.List.Basic

/-!
# Offers and who answers for them

A client registers an offer, and its wallet subscribes to the offer over a WebSocket connection. To
fetch an invoice, the connection that is subscribed last is asked first, and the webhook of the
offer when there is none or when it does not answer. Requests, connections and changes of offers run
side by side; a step is one access to what they share.
-/

namespace Boltz.Offers

open Caches

abbrev ConnectionId := UInt64

abbrev HookId := UInt64

abbrev OfferId := UInt64

abbrev Bytes := List UInt8

inductive Invoice (PublicKey : Type) where
  | bolt11
  | offer (issuerSigningPubkey : Option PublicKey)
  | bolt12 (signingPubkey : PublicKey)

/-- The libraries for BOLT12 and signatures. -/
structure Lib where
  PublicKey : Type
  Signature : Type
  serialize : PublicKey → Bytes
  /-- of an invoice or offer for the network -/
  decode : String → Except String (Invoice PublicKey)
  /-- the key in the offer of an invoice request -/
  requestIssuer : Bytes → Except String (Option PublicKey)
  /-- of the standard library -/
  toLowercase : String → String
  hexEncode : Bytes → String
  hexDecode : String → Except String Bytes
  signatureFromSlice : Bytes → Except String Signature
  /-- of the SHA-256 hash of a message -/
  verifySchnorr : Signature → String → PublicKey → Bool
  validateUrl : String → Except String Unit
  hashKey : PublicKey → UInt64
  hashRequest : String → UInt64
  /-- the fields `invoice` and `error` of JSON -/
  invoiceOf : Bytes → Option String
  errorOf : Bytes → Except String String

/-- A row of the table `offers`. -/
structure Offer where
  signer : Bytes
  offer : String
  url : Option String
  deriving DecidableEq, Repr

structure InvoiceHook where
  offer : String
  invoiceRequest : String
  deriving DecidableEq, Repr

structure InvoiceRequestParams where
  offer : String
  signature : String
  deriving DecidableEq, Repr

def INVOICE_REQUEST_TIMEOUT : Nat := 60

def INVOICE_FETCH_TIMEOUT_WEBSOCKET_SECONDS : Nat := 8

def INVOICE_FETCH_TIMEOUT_WEBHOOK_SECONDS : Nat := 30

def OFFER_SUBSCRIBE_MESSAGE : String := "SUBSCRIBE"

def OFFER_DELETE_MESSAGE : String := "DELETE"

def OFFER_UPDATE_NO_URL_MESSAGE : String := "UPDATE"

/-- Messages that a channel of hooks or of responses can hold. -/
def HOOK_CAPACITY : Nat := 64

def RESPONSE_CAPACITY : Nat := 256

variable (lib : Lib)

def InvoiceHook.new (offer : String) (invoiceRequest : Bytes) : InvoiceHook :=
  { offer := offer, invoiceRequest := lib.hexEncode invoiceRequest }

def InvoiceHook.id (hook : InvoiceHook) : HookId := lib.hashRequest hook.invoiceRequest

/-! ## Registered offers -/

def checkUrl (url : Option String) : Except String Unit :=
  match url with
  | some url => (lib.validateUrl url).mapError ("invalid URL: " ++ ·)
  | none => .ok ()

/-- The signer of an offer. -/
def prepareOffer (offer : String) (url : Option String) : Except String lib.PublicKey := do
  checkUrl lib url
  match ← lib.decode offer with
  | .offer (some signer) => .ok signer
  | .offer none => .error "no signing public key specified"
  | _ => .error "invalid offer"

def schnorrSignatureValid (signer : lib.PublicKey) (signature : Bytes) (message : String) :
    Except String Bool := do
  let signature ← lib.signatureFromSlice signature
  .ok (lib.verifySchnorr signature message signer)

def getBySigner (offers : List Offer) (signer : Bytes) : Option Offer :=
  offers.find? fun row => row.signer = signer

/-- By the lowercase text. -/
def getOffer (offers : List Offer) (offer : String) : Option Offer :=
  offers.find? fun row => row.offer = lib.toLowercase offer

/-- What a change of an offer does to the table. -/
inductive Statement where
  | insert (row : Offer)
  | update (signer : Bytes) (url : Option String)
  | delete (signer : Bytes)

/-- The signer is the primary key; a statement that would violate it does nothing. -/
def Statement.run (offers : List Offer) : Statement → List Offer
  | insert row => if (getBySigner offers row.signer).isSome then offers else offers ++ [row]
  | update signer url =>
    offers.map fun row => if row.signer = signer then { row with url := url } else row
  | delete signer => offers.filter fun row => row.signer ≠ signer

section

variable (offers : List Offer)

def addOffer (offer : String) (url : Option String) : Except String Statement := do
  let signer ← prepareOffer lib offer url
  if (getBySigner offers (lib.serialize signer)).isSome then
    .error "an offer for this signing public key was registered already"
  else .ok (.insert { signer := lib.serialize signer, offer := lib.toLowercase offer, url := url })

def updateOffer (offer : String) (url : Option String) (signature : Bytes) :
    Except String Statement := do
  let signer ← prepareOffer lib offer url
  if (getBySigner offers (lib.serialize signer)).isNone then
    .error "no offer registered for this signing public key"
  else
    let valid ← schnorrSignatureValid lib signer signature (url.getD OFFER_UPDATE_NO_URL_MESSAGE)
    if valid then .ok (.update (lib.serialize signer) url) else .error "invalid signature"

def deleteOffer (offer : String) (signature : Bytes) : Except String Statement := do
  let signer ← prepareOffer lib offer none
  if (getBySigner offers (lib.serialize signer)).isNone then
    .error "no offer registered for this signing public key"
  else
    let valid ← schnorrSignatureValid lib signer signature OFFER_DELETE_MESSAGE
    if valid then .ok (.delete (lib.serialize signer)) else .error "invalid signature"

def getOfferForInvoiceRequest (invoiceRequest : Bytes) : Except String (Option Offer) := do
  match ← lib.requestIssuer invoiceRequest with
  | some signingPubkey => .ok (getBySigner offers (lib.serialize signingPubkey))
  | none => .error "no issuer signing public key"

end

/-! ## Subscriptions -/

def hashOffer (offer : String) : Except String (lib.PublicKey × OfferId) := do
  match ← lib.decode offer with
  | .offer (some signingPubkey) => .ok (signingPubkey, lib.hashKey signingPubkey)
  | .offer none => .error "no signing public key in offer"
  | _ => .error "invalid offer"

def verifySubscription (param : InvoiceRequestParams) :
    Except String (lib.PublicKey × String × OfferId) := do
  let sigBytes ← (lib.hexDecode param.signature).mapError ("invalid signature: " ++ ·)
  let (signingPubkey, offerId) ← hashOffer lib param.offer
  let signature ← lib.signatureFromSlice sigBytes
  if lib.verifySchnorr signature OFFER_SUBSCRIBE_MESSAGE signingPubkey then
    .ok (signingPubkey, param.offer, offerId)
  else .error "invalid signature"

/-- Fails unless all signatures are valid. -/
def verifySubscriptions (offers : List InvoiceRequestParams) :
    Except String (List (lib.PublicKey × String × OfferId)) :=
  offers.mapM (verifySubscription lib)

/-! ## Responses -/

def decodeBolt12Invoice (invoice : String) : Except String lib.PublicKey := do
  match ← lib.decode invoice with
  | .bolt12 signingPubkey => .ok signingPubkey
  | _ => .error "invalid invoice"

def validateInvoiceSigner (expectedSigner : Bytes) (signingPubkey : lib.PublicKey) :
    Except String Unit :=
  if lib.serialize signingPubkey ≠ expectedSigner then
    .error "invoice signing pubkey does not match offer issuer"
  else .ok ()

/-- An invoice with its decoded signing key. -/
abbrev Fetched := String × lib.PublicKey

def parseInvoice (invoice : String) : Except String (Fetched lib) := do
  let decoded ← decodeBolt12Invoice lib invoice
  .ok (invoice, decoded)

def validated (row : Offer) (parsed : Except String (Fetched lib)) :
    Except String (Fetched lib) := do
  let (invoice, decoded) ← parsed
  validateInvoiceSigner lib row.signer decoded
  .ok (invoice, decoded)

/-- An answer over the WebSocket. -/
def handleResponse (row : Offer) (res : Except String String) : Except String (Fetched lib) :=
  validated lib row <|
    match res with
    | .ok invoice => parseInvoice lib invoice
    | .error err => .error err

/-- An answer of the webhook. -/
def handleBody (row : Offer) (data : Bytes) : Except String (Fetched lib) :=
  validated lib row <|
    match lib.invoiceOf data with
    | some invoice => parseInvoice lib invoice
    | none => do .error (← lib.errorOf data)

/-! ## What is shared -/

namespace TimeoutMap

variable {K V : Type} [DecidableEq K]

def cleanup (now : Nat) (m : ExpiringMap K V) : ExpiringMap K V := m.retain (·.isLive now)

def insert (now ttl : Nat) (m : ExpiringMap K V) (key : K) (value : V) : ExpiringMap K V :=
  Function.update (cleanup now m) key (some { value := value, expiresAt := some (now + ttl) })

/-- The value of the key, and the map without it. -/
def remove (now : Nat) (m : ExpiringMap K V) (key : K) : Option V × ExpiringMap K V :=
  (((cleanup now m) key).map (·.value), Function.update (cleanup now m) key none)

end TimeoutMap

/-- The channel to a connection. Two connections never have the same one. -/
structure Channel where
  connection : ConnectionId
  number : Nat
  deriving DecidableEq, Repr

abbrev InvoiceResponse := InvoiceHook × Except String String

structure Shared where
  /-- in seconds -/
  now : Nat
  offers : List Offer
  allOffers : OfferId → Option (String × ConnectionId)
  offerSubscriptions : ConnectionId → Option Channel
  /-- The hooks in a channel, when it has a receiver. -/
  channels : Channel → Option (List InvoiceHook)
  pendingHooks : ExpiringMap HookId InvoiceHook

/-- What the task of a connection does. -/
inductive Socket where
  | idle
  | subscribing (toInsert : List (String × OfferId))
  | unsubscribing (offers : List String)
  /-- The receiver of its channel was dropped. -/
  | closing
  /-- And the offers were removed. -/
  | pruned

/-- Where a call of `fetch_invoice` is. -/
inductive Stage where
  | looking
  | owned (connectionId : ConnectionId)
  /-- The owner has no channel any more. -/
  | lost (connectionId : ConnectionId)
  | reaching (sender : Channel)
  | sending (sender : Channel) (since : Nat)
  | waiting (since deadline : Nat)
  | falling
  | calling
  | waitingWebhook (deadline : Nat)
  | done (result : Except String (Fetched lib))

structure Call where
  row : Offer
  hook : InvoiceHook
  stage : Stage lib
  /-- The responses and the webhook calls that it has not received yet. -/
  responses : List InvoiceResponse
  successfulCalls : List (InvoiceHook × Bytes)

structure State extends Shared where
  /-- of changes of offers -/
  statements : List Statement
  sockets : ConnectionId → Option Socket
  opened : Nat
  calls : List (Call lib)
  /-- Responses whose hook is not pending any more and that were not sent to the calls yet. -/
  answers : List InvoiceResponse
  /-- The connections there have been, the messages that were signed for changes of offers, and the
  keys that signed for the subscriptions of connections. -/
  connected : List ConnectionId
  signed : List (lib.PublicKey × String)
  subscribed : List (ConnectionId × lib.PublicKey)
  /-- The hooks that were taken from a channel to be sent to its client. -/
  delivered : List (ConnectionId × InvoiceHook)

def State.init : State lib :=
  { now := 0
    offers := []
    allOffers := fun _ => none
    offerSubscriptions := fun _ => none
    channels := fun _ => none
    pendingHooks := .empty
    statements := []
    sockets := fun _ => none
    opened := 0
    calls := []
    answers := []
    connected := []
    signed := []
    subscribed := []
    delivered := [] }

/-! ## Calls of `fetch_invoice` -/

inductive CallOp where
  | lookup
  | lookupSender
  /-- Removes the entry of the owner that was looked up. -/
  | cleanup
  | insertPending
  | send
  | receive
  | timeout
  /-- Subscribes to the webhook calls and makes one. -/
  | callWebhook
  | called (result : Except String Unit)
  | receiveCall
  | timeoutWebhook

variable {lib}

def Call.finish (call : Call lib) (result : Except String (Fetched lib)) : Call lib :=
  { call with stage := .done result }

/-- The timeout is longer when there is no webhook. -/
def Call.websocketTimeout (call : Call lib) : Nat :=
  if call.row.url.isSome then INVOICE_FETCH_TIMEOUT_WEBSOCKET_SECONDS
  else INVOICE_FETCH_TIMEOUT_WEBHOOK_SECONDS

def Call.lookup (s : Shared) (call : Call lib) : Call lib :=
  match hashOffer lib call.hook.offer with
  | .error err => call.finish (.error err)
  | .ok (_, offerId) =>
    match s.allOffers offerId with
    | some (_, connectionId) => { call with stage := .owned connectionId }
    | none => { call with stage := .falling }

/-- `remove_if`. -/
def removeIfOwned (allOffers : OfferId → Option (String × ConnectionId)) (offerId : OfferId)
    (connectionId : ConnectionId) : OfferId → Option (String × ConnectionId) :=
  if (allOffers offerId).any fun entry => entry.2 = connectionId then
    Function.update allOffers offerId none
  else allOffers

/-- The hash of an offer that was looked up before. -/
def offerIdOf (lib : Lib) (offer : String) : Option OfferId :=
  (hashOffer lib offer).toOption.map (·.2)

def Call.cleanup (s : Shared) (call : Call lib) (connectionId : ConnectionId) : Shared :=
  match offerIdOf lib call.hook.offer with
  | some offerId => { s with allOffers := removeIfOwned s.allOffers offerId connectionId }
  | none => s

/-- Fails when the receiver is gone, and waits when the channel is full. -/
def Call.send (s : Shared) (call : Call lib) (sender : Channel) (since : Nat) :
    Option (Shared × Call lib) :=
  match s.channels sender with
  | none => some
      ({ s with pendingHooks := (TimeoutMap.remove s.now s.pendingHooks (call.hook.id lib)).2 },
        call.finish (.error "channel closed"))
  | some hooks =>
    if hooks.length < HOOK_CAPACITY then some
      ({ s with channels := Function.update s.channels sender (some (hooks ++ [call.hook])) },
        { call with stage := .waiting since (s.now + call.websocketTimeout) })
    else none

/-- A receiver that is too far behind fails. -/
def lagged {α : Type} (messages : List α) : Option String :=
  if RESPONSE_CAPACITY < messages.length then
    some ("failed to receive invoice response: channel lagged by " ++
      toString (messages.length - RESPONSE_CAPACITY))
  else none

def Call.receive (call : Call lib) : Option (Call lib) :=
  match lagged call.responses, call.responses with
  | some err, _ => some (call.finish (.error err))
  | none, [] => none
  | none, (hook, res) :: responses =>
    if hook.id lib = call.hook.id lib then
      some ({ call with responses := responses }.finish (handleResponse lib call.row res))
    else some { call with responses := responses }

def Call.receiveCall (call : Call lib) : Option (Call lib) :=
  match lagged call.successfulCalls, call.successfulCalls with
  | some err, _ => some (call.finish (.error err))
  | none, [] => none
  | none, (hook, data) :: successfulCalls =>
    if hook.id lib = call.hook.id lib then
      some ({ call with successfulCalls := successfulCalls }.finish (handleBody lib call.row data))
    else some { call with successfulCalls := successfulCalls }

def Call.step (s : Shared) (call : Call lib) (op : CallOp) : Option (Shared × Call lib) :=
  match call.stage, op with
  | .looking, .lookup => some (s, call.lookup s)
  | .owned connectionId, .lookupSender =>
    match s.offerSubscriptions connectionId with
    | some sender => some (s, { call with stage := .reaching sender })
    | none => some (s, { call with stage := .lost connectionId })
  | .lost connectionId, .cleanup => some (call.cleanup s connectionId, { call with stage := .falling })
  | .reaching sender, .insertPending => some
      ({ s with
          pendingHooks := TimeoutMap.insert s.now INVOICE_REQUEST_TIMEOUT s.pendingHooks
            (call.hook.id lib) call.hook },
        { call with stage := .sending sender s.now })
  | .sending sender since, .send => call.send s sender since
  | .waiting _ _, .receive => call.receive.map fun call => (s, call)
  | .waiting _ deadline, .timeout =>
    if deadline ≤ s.now then some (s, { call with stage := .falling }) else none
  | .falling, .callWebhook =>
    if call.row.url.isSome then some (s, { call with stage := .calling })
    else some (s, call.finish (.error "no way to reach client"))
  | .calling, .called (.ok ()) => some
      (s, { call with stage := .waitingWebhook (s.now + INVOICE_FETCH_TIMEOUT_WEBHOOK_SECONDS) })
  | .calling, .called (.error err) => some (s, call.finish (.error err))
  | .waitingWebhook _, .receiveCall => call.receiveCall.map fun call => (s, call)
  | .waitingWebhook deadline, .timeoutWebhook =>
    if deadline ≤ s.now then
      some (s, call.finish (.error "timeout waiting for invoice response"))
    else none
  | _, _ => none

/-- Whether a call still listens to the WebSocket. -/
def Call.listens (call : Call lib) : Bool :=
  match call.stage with
  | .looking | .owned _ | .lost _ | .reaching _ | .sending _ _ | .waiting _ _ => true
  | _ => false

/-- Whether a call listens to the webhook calls. -/
def Call.listensToCalls (call : Call lib) : Bool :=
  match call.stage with
  | .calling | .waitingWebhook _ => true
  | _ => false

/-! ## Steps -/

inductive Op (lib : Lib) where
  | addOffer (offer : String) (url : Option String)
  | updateOffer (offer : String) (url : Option String) (signature : Bytes)
  | deleteOffer (offer : String) (signature : Bytes)
  /-- A statement reaches the table. -/
  | execute (i : Nat)
  | connect (connectionId : ConnectionId)
  | subscribe (connectionId : ConnectionId) (offers : List InvoiceRequestParams)
  | insertNext (connectionId : ConnectionId)
  | unsubscribe (connectionId : ConnectionId) (offers : List String)
  | removeNext (connectionId : ConnectionId)
  /-- The next hook is sent to the client. -/
  | deliver (connectionId : ConnectionId)
  | close (connectionId : ConnectionId)
  | prune (connectionId : ConnectionId)
  | forget (connectionId : ConnectionId)
  /-- A client responds to a hook. -/
  | respond (hookId : HookId) (res : Except String String)
  | broadcast (i : Nat)
  /-- An invoice for an offer, with the request that is made for it. -/
  | fetch (offer : String) (invoiceRequest : Bytes)
  | onionMessage (invoiceRequest : Bytes)
  | call (i : Nat) (op : CallOp)
  /-- A call of a webhook succeeds. -/
  | webhook (hook : InvoiceHook) (data : Bytes)
  | tick

def State.startCall (s : State lib) (row : Offer) (invoiceRequest : Bytes) : State lib :=
  { s with
    calls := s.calls ++
      [{ row := row
         hook := .new lib row.offer invoiceRequest
         stage := .looking
         responses := []
         successfulCalls := [] }] }

def State.setSocket (s : State lib) (connectionId : ConnectionId) (socket : Option Socket) :
    State lib :=
  { s with sockets := Function.update s.sockets connectionId socket }

/-- The issuers of offers. -/
def issuers (lib : Lib) (offer : String) : List lib.PublicKey :=
  ((hashOffer lib offer).toOption.map (·.1)).toList

/-- A change that was checked, and the message that was signed for it. -/
def State.change (s : State lib) (offer : String) (message : String)
    (checked : Except String Statement) : State lib :=
  match checked with
  | .ok statement =>
    { s with
      statements := s.statements ++ [statement]
      signed := s.signed ++ (issuers lib offer).map fun signer => (signer, message) }
  | .error _ => s

def State.subscribe (s : State lib) (connectionId : ConnectionId)
    (offers : List InvoiceRequestParams) : State lib :=
  match verifySubscriptions lib offers with
  | .error _ => s
  | .ok verified =>
    let keys : List lib.PublicKey := verified.map (·.1)
    let s := { s with subscribed := s.subscribed ++ keys.map fun key => (connectionId, key) }
    if (s.offerSubscriptions connectionId).isSome then
      s.setSocket connectionId (some (.subscribing (verified.map (·.2))))
    else s

def State.respond (s : State lib) (hookId : HookId) (res : Except String String) : State lib :=
  let (removed, pendingHooks) := TimeoutMap.remove s.now s.pendingHooks hookId
  { s with
    pendingHooks := pendingHooks
    answers := s.answers ++ removed.toList.map fun hook => (hook, res) }

def Call.addResponse (call : Call lib) (response : InvoiceResponse) : Call lib :=
  if call.listens then { call with responses := call.responses ++ [response] } else call

def Call.addSuccessfulCall (call : Call lib) (success : InvoiceHook × Bytes) : Call lib :=
  if call.listensToCalls then
    { call with successfulCalls := call.successfulCalls ++ [success] }
  else call

/-- The tasks of connections. -/
def State.stepSocket (s : State lib) (connectionId : ConnectionId) (socket : Socket) :
    Op lib → Option (State lib)
  | .subscribe _ offers =>
    match socket with
    | .idle => some (s.subscribe connectionId offers)
    | _ => none
  | .insertNext _ =>
    match socket with
    | .subscribing [] => some (s.setSocket connectionId (some .idle))
    | .subscribing ((offer, offerId) :: toInsert) => some
        { s.setSocket connectionId (some (.subscribing toInsert)) with
          allOffers := Function.update s.allOffers offerId (some (offer, connectionId)) }
    | _ => none
  | .unsubscribe _ offers =>
    match socket with
    | .idle => some (s.setSocket connectionId (some (.unsubscribing offers)))
    | _ => none
  | .removeNext _ =>
    match socket with
    | .unsubscribing [] => some (s.setSocket connectionId (some .idle))
    | .unsubscribing (offer :: offers) =>
      match hashOffer lib offer with
      | .error _ => some (s.setSocket connectionId (some .idle))
      | .ok (_, offerId) => some
          { s.setSocket connectionId (some (.unsubscribing offers)) with
            allOffers := removeIfOwned s.allOffers offerId connectionId }
    | _ => none
  | .deliver _ =>
    match socket, s.offerSubscriptions connectionId with
    | .idle, some channel =>
      match s.channels channel with
      | some (hook :: hooks) => some
          { s with
            channels := Function.update s.channels channel (some hooks)
            delivered := s.delivered ++ [(connectionId, hook)] }
      | _ => none
    | _, _ => none
  | .close _ =>
    match socket, s.offerSubscriptions connectionId with
    | .idle, some channel => some
        { s.setSocket connectionId (some .closing) with
          channels := Function.update s.channels channel none }
    | _, _ => none
  | .prune _ =>
    match socket with
    | .closing => some
        { s.setSocket connectionId (some .pruned) with
          allOffers := fun offerId =>
            (s.allOffers offerId).filter fun entry => entry.2 ≠ connectionId }
    | _ => none
  | .forget _ =>
    match socket with
    | .pruned => some
        { s.setSocket connectionId none with
          offerSubscriptions := Function.update s.offerSubscriptions connectionId none }
    | _ => none
  | _ => none

def State.connect (s : State lib) (connectionId : ConnectionId) : State lib :=
  let channel : Channel := { connection := connectionId, number := s.opened }
  { s.setSocket connectionId (some .idle) with
    opened := s.opened + 1
    connected := s.connected ++ [connectionId]
    offerSubscriptions := Function.update s.offerSubscriptions connectionId (some channel)
    channels := Function.update s.channels channel (some []) }

/-- The connection of an operation. -/
def Op.connection? : Op lib → Option ConnectionId
  | .subscribe c _ | .insertNext c | .unsubscribe c _ | .removeNext c | .deliver c | .close c
  | .prune c | .forget c => some c
  | _ => none

def State.stepConnection (s : State lib) (op : Op lib) : Option (State lib) :=
  match op.connection? with
  | some connectionId =>
    match s.sockets connectionId with
    | some socket => s.stepSocket connectionId socket op
    | none => none
  | none => none

def step (s : State lib) (op : Op lib) : Option (State lib) :=
  match op with
  | .addOffer offer url =>
    match addOffer lib s.offers offer url with
    | .ok statement => some { s with statements := s.statements ++ [statement] }
    | .error _ => some s
  | .updateOffer offer url signature => some (s.change offer
      (url.getD OFFER_UPDATE_NO_URL_MESSAGE) (updateOffer lib s.offers offer url signature))
  | .deleteOffer offer signature => some (s.change offer OFFER_DELETE_MESSAGE
      (deleteOffer lib s.offers offer signature))
  | .execute i =>
    match s.statements[i]? with
    | some statement => some
        { s with offers := statement.run s.offers, statements := s.statements.eraseIdx i }
    | none => none
  -- a random id that is not known
  | .connect connectionId =>
    if (s.offerSubscriptions connectionId).isNone then some (s.connect connectionId) else none
  | .respond hookId res => some (s.respond hookId res)
  | .broadcast i =>
    match s.answers[i]? with
    | some response => some
        { s with
          answers := s.answers.eraseIdx i
          calls := s.calls.map (·.addResponse response) }
    | none => none
  | .fetch offer invoiceRequest =>
    match getOffer lib s.offers offer with
    | some row =>
      match lib.decode row.offer with
      | .ok (.offer _) => some (s.startCall row invoiceRequest)
      | _ => none
    | none => none
  | .onionMessage invoiceRequest =>
    match getOfferForInvoiceRequest lib s.offers invoiceRequest with
    | .ok (some row) => some (s.startCall row invoiceRequest)
    | _ => none
  | .call i op =>
    match s.calls[i]? with
    | some call => (call.step s.toShared op).map fun (shared, call) =>
        { s with toShared := shared, calls := s.calls.set i call }
    | none => none
  | .webhook hook data => some
      { s with calls := s.calls.map (·.addSuccessfulCall (hook, data)) }
  | .tick => some { s with now := s.now + 1 }
  | op => s.stepConnection op

end Boltz.Offers
