import Boltz.Service.RouteTimeouts
import Mathlib.Data.List.Nodup

/-!
# Selection of Lightning nodes (`NodeSwitch.ts`)

The clients of a currency are the LNDs in the order of the config and at most one CLN. Whether a
client is connected does not change while one is selected. What the payment table answers is a
parameter, and the log is left out.
-/

namespace Boltz.NodeSelection

open RouteTimeouts (NodeType InvoiceType HopHint DecodedInvoice msatToSat)

/-! ## Clients -/

structure LightningClient where
  id : String
  type : NodeType
  isConnected : Bool
  deriving DecidableEq, Repr

/-- `Errors.NO_AVAILABLE_LIGHTNING_CLIENT` without details, or a rejected query. -/
inductive Error where
  | noAvailableLightningClient
  | database (details : String)
  deriving DecidableEq, Repr

def Error.message : Error → String
  | noAvailableLightningClient => "no available lightning client"
  | database details => details

/-- The id of a client is the public key of its node. -/
structure Currency where
  lndClients : List LightningClient
  clnClient : Option LightningClient
  lnd_type : ∀ client ∈ lndClients, client.type = .lnd
  cln_type : ∀ client ∈ clnClient, client.type = .cln
  ids_nodup : ((lndClients ++ clnClient.toList).map LightningClient.id).Nodup

namespace Currency

variable (currency : Currency)

/-- `getLightningClients` -/
def clients : List LightningClient := currency.lndClients ++ currency.clnClient.toList

def getLightningClientById (nodeId : String) : Option LightningClient :=
  match currency.lndClients.find? (·.id = nodeId) with
  | some lnd => some lnd
  | none => currency.clnClient.filter (·.id = nodeId)

def getConnectedLnd : Option LightningClient :=
  currency.lndClients.find? LightningClient.isConnected

end Currency

/-- The map keeps the client that is in it already. -/
def setIfAbsent (unique : List LightningClient) (candidate : LightningClient) :
    List LightningClient :=
  if unique.any (·.id = candidate.id) then unique else unique ++ [candidate]

/-- The first client of every id, in the order of insertion into the map. -/
def uniqueById (ordered : List LightningClient) : List LightningClient :=
  ordered.foldl setIfAbsent []

/-- `clients[0]` is the first element of the list, which is not empty there. -/
def fallback (currency : Currency) (client : Option LightningClient := none) :
    Except Error LightningClient :=
  let ordered := client.toList ++ currency.lndClients ++ currency.clnClient.toList
  match (uniqueById ordered).filter LightningClient.isConnected with
  | [] => .error .noAvailableLightningClient
  | first :: _ => .ok first

/-! ## The switch -/

structure NodeAmountThreshold where
  submarine : ℚ
  reverse : ℚ
  deriving DecidableEq, Repr

def defaultClnAmountThreshold : ℚ := 1000000

def maxClnRetries : ℕ := 1

/-- `cfg.clnAmountThreshold`: a number, or an object with numbers in it. -/
inductive ThresholdConfig where
  | number (threshold : ℚ)
  | object (submarine reverse : Option ℚ)
  deriving DecidableEq, Repr

/-- In an object, `0` counts as not set. -/
def ThresholdConfig.orDefault (threshold : Option ℚ) : ℚ :=
  match threshold with
  | none => defaultClnAmountThreshold
  | some value => if value = 0 then defaultClnAmountThreshold else value

def ThresholdConfig.clnAmountThreshold : Option ThresholdConfig → NodeAmountThreshold
  | some (.number threshold) => ⟨threshold, threshold⟩
  | some (.object submarine reverse) => ⟨orDefault submarine, orDefault reverse⟩
  | none => ⟨defaultClnAmountThreshold, defaultClnAmountThreshold⟩

/-- The maps are lists of their entries. -/
structure NodeSwitch where
  clnAmountThreshold : NodeAmountThreshold := ThresholdConfig.clnAmountThreshold none
  referralIds : List (String × String) := []
  swapNode : Option String := none
  /-- The keys are in lower case. -/
  preferredForNode : List (String × String) := []
  deriving DecidableEq, Repr

structure LightningPayment where
  retries : Option ℕ
  deriving DecidableEq, Repr

/-- `LightningPaymentRepository.findByPreimageHashAndNodeId` -/
abbrev FindPayment := String → String → Except Error (Option LightningPayment)

/-- Whether the node has failed to pay the hash often enough. -/
def clnRetriesReached (existingPayment : Option LightningPayment) : Bool :=
  match existingPayment.bind LightningPayment.retries with
  | some retries => maxClnRetries ≤ retries
  | none => false

namespace NodeSwitch

variable (nodes : NodeSwitch) (currency : Currency)

def getPreferredNode (invoice : DecodedInvoice) : Option String :=
  let hinted := invoice.routingHints.flatten.map HopHint.nodeId ++ invoice.payee.toList
  match hinted.findSome? fun node => nodes.preferredForNode.lookup node.toLower with
  | some preferred => some preferred
  | none => nodes.swapNode

def getReferralNode (referral : Option String) : Option String :=
  nodes.referralIds.lookup (referral.getD "")

/-- The configured client that the config asks for. The referral only counts when no node is
preferred, even when that one is not configured. -/
def requestedClient (decoded : DecodedInvoice) (referral : Option String) :
    Option LightningClient :=
  let preferredNodeId := nodes.getPreferredNode decoded
  let referralNodeId := if preferredNodeId = none then nodes.getReferralNode referral else none
  (preferredNodeId <|> referralNodeId).bind currency.getLightningClientById

/-- The CLN when the amount is not above the threshold and it is connected. -/
def clnForAmount (amount threshold : ℚ) : Option LightningClient :=
  if amount ≤ threshold then currency.clnClient.filter LightningClient.isConnected else none

/-- The client before the retries of CLN are looked at. -/
def selectClient (decoded : DecodedInvoice) (referral : Option String) :
    Except Error LightningClient :=
  let requestedClient := nodes.requestedClient currency decoded referral
  if decoded.type ≠ .bolt11 then
    match requestedClient.filter (·.type = .cln) with
    | some requested => fallback currency requested
    | none => fallback currency currency.clnClient
  else
    match requestedClient with
    | some requested => fallback currency requested
    | none =>
      let amount := msatToSat decoded.amountMsat
      match clnForAmount currency amount nodes.clnAmountThreshold.submarine with
      | some cln => .ok cln
      | none => fallback currency

def getSwapNode (payments : FindPayment) (decoded : DecodedInvoice) (referral : Option String) :
    Except Error LightningClient := do
  let client ← nodes.selectClient currency decoded referral
  if client.type = .cln ∧ decoded.type = .bolt11 then
    match decoded.paymentHash with
    | none => return client
    | some paymentHash =>
      let existingPayment ← payments paymentHash client.id
      if clnRetriesReached existingPayment then
        match currency.getConnectedLnd with
        | some connectedLnd => return connectedLnd
        | none => fallback currency
      else return client
  else return client

/-! ## Reverse swaps -/

structure Candidate where
  nodeId : String
  nodeType : NodeType
  lightningClient : LightningClient
  deriving DecidableEq, Repr

def Candidate.ofClient (client : LightningClient) : Candidate :=
  ⟨client.id, client.type, client⟩

def getOrderedClients (preferredNodeId : Option String) : List LightningClient :=
  let ordered := currency.clients
  match preferredNodeId.bind currency.getLightningClientById with
  | none => ordered
  | some preferred => preferred :: ordered.filter (·.id ≠ preferred.id)

def getBolt11Candidates (preferredNodeId : Option String) : List Candidate :=
  ((getOrderedClients currency preferredNodeId).filter LightningClient.isConnected).map
    Candidate.ofClient

/-- Without a referral node, the threshold moves CLN to the front. -/
def preferCln (holdInvoiceAmount : ℚ) (referralNodeId : Option String)
    (candidates : List Candidate) : List Candidate :=
  if referralNodeId = none ∧
      (clnForAmount currency holdInvoiceAmount nodes.clnAmountThreshold.reverse).isSome then
    match candidates.find? (·.nodeType = .cln) with
    | some clnCandidate =>
      clnCandidate :: candidates.filter (·.nodeId ≠ clnCandidate.nodeId)
    | none => candidates
  else candidates

def getReverseSwapCandidates (holdInvoiceAmount : ℚ) (referralId preferredNodeId : Option String) :
    List Candidate :=
  let referralNodeId := nodes.getReferralNode referralId
  let candidates := nodes.preferCln currency holdInvoiceAmount referralNodeId
    (getBolt11Candidates currency referralNodeId)
  match preferredNodeId with
  | none => candidates
  | some preferredNodeId =>
    match candidates.find? (·.nodeId = preferredNodeId) with
    | some preferredCandidate =>
      preferredCandidate :: candidates.filter (· ≠ preferredCandidate)
    | none => candidates

end NodeSwitch

end Boltz.NodeSelection
