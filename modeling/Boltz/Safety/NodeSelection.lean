import Boltz.Swap.NodeSwitch
import Mathlib.Tactic.NormNum

/-!
# Which node is selected

A node is selected by going through the clients in the order of priority and taking the first one
that is connected. A BOLT12 invoice can only be paid with CLN, but the fallback does not know that.
-/

namespace Boltz.NodeSelection

open RouteTimeouts (DecodedInvoice InvoiceType NodeType msatToSat)

/-! ## Removing duplicates -/

section EraseDups

variable {α : Type*} [DecidableEq α]

theorem filter_eraseDups (p : α → Bool) :
    ∀ l : List α, (l.filter p).eraseDups = l.eraseDups.filter p
  | [] => rfl
  | a :: l => by
    have : (l.filter fun b => !b == a).length < l.length + 1 :=
      Nat.lt_succ_of_le (List.length_filter_le _ _)
    have hrest := filter_eraseDups p (l.filter fun b => !b == a)
    rw [List.eraseDups_cons]
    by_cases ha : p a
    · rw [List.filter_cons_of_pos ha, List.filter_cons_of_pos ha, List.eraseDups_cons, ← hrest,
        List.filter_comm]
    · have hskip : l.filter p = (l.filter fun b => !b == a).filter p := by
        rw [List.filter_filter]
        refine List.filter_congr fun b _ => ?_
        by_cases hb : b = a <;> simp [hb, ha]
      rw [List.filter_cons_of_neg ha, List.filter_cons_of_neg ha, hskip, hrest]
termination_by l => l.length

theorem nodup_eraseDups : ∀ l : List α, l.eraseDups.Nodup
  | [] => List.nodup_nil
  | a :: l => by
    have : (l.filter fun b => !b == a).length < l.length + 1 :=
      Nat.lt_succ_of_le (List.length_filter_le _ _)
    rw [List.eraseDups_cons, List.nodup_cons]
    refine ⟨fun hmem => ?_, nodup_eraseDups _⟩
    simpa using List.mem_filter.mp (List.mem_eraseDups.mp hmem)
termination_by l => l.length

theorem eraseDups_of_nodup : ∀ {l : List α}, l.Nodup → l.eraseDups = l
  | [], _ => rfl
  | a :: l, h => by
    obtain ⟨ha, hl⟩ := List.nodup_cons.mp h
    have hrest : (l.filter fun b => !b == a) = l := by
      refine List.filter_eq_self.mpr fun b hb => ?_
      have hba : b ≠ a := fun hba => ha (hba ▸ hb)
      simpa using hba
    rw [List.eraseDups_cons, hrest, eraseDups_of_nodup hl]

/-- Moving an element to the front. -/
theorem cons_filter_ne (a : α) (l : List α) :
    a :: l.eraseDups.filter (· ≠ a) = (a :: l).eraseDups := by
  rw [List.eraseDups_cons, filter_eraseDups]
  simp only [List.cons.injEq, true_and]
  refine List.filter_congr fun b _ => ?_
  by_cases hb : b = a <;> simp [hb]

end EraseDups

/-! ## Clients of a currency -/

section Clients

variable {currency : Currency} {client other : LightningClient} {nodeId : String}

namespace Currency

theorem mem_clients :
    client ∈ currency.clients ↔ client ∈ currency.lndClients ∨ client ∈ currency.clnClient := by
  simp [clients]

theorem clients_nodup (currency : Currency) : currency.clients.Nodup :=
  List.Nodup.of_map _ currency.ids_nodup

theorem eq_of_id_eq (hclient : client ∈ currency.clients) (hother : other ∈ currency.clients)
    (h : client.id = other.id) : client = other :=
  List.inj_on_of_nodup_map currency.ids_nodup hclient hother h

theorem id_ne_iff (hclient : client ∈ currency.clients) (hother : other ∈ currency.clients) :
    client.id ≠ other.id ↔ client ≠ other :=
  not_congr ⟨eq_of_id_eq hclient hother, fun h => h ▸ rfl⟩

theorem mem_cln_of_type (h : client ∈ currency.clients) (htype : client.type = .cln) :
    client ∈ currency.clnClient := by
  rcases mem_clients.mp h with hlnd | hcln
  · exact absurd ((currency.lnd_type client hlnd).symm.trans htype) (by decide)
  · exact hcln

/-- A configured client is found by its id and by no other. -/
theorem getLightningClientById_eq_some :
    currency.getLightningClientById nodeId = some client ↔
      client ∈ currency.clients ∧ client.id = nodeId := by
  unfold getLightningClientById
  cases hlnd : currency.lndClients.find? (·.id = nodeId) with
  | some lnd =>
    have hmem := List.mem_of_find?_eq_some hlnd
    have hid : lnd.id = nodeId := by simpa using List.find?_some hlnd
    constructor
    · rintro ⟨⟩
      exact ⟨mem_clients.mpr (.inl hmem), hid⟩
    · rintro ⟨hclient, hclientId⟩
      exact congrArg some (eq_of_id_eq (mem_clients.mpr (.inl hmem)) hclient
        (hid.trans hclientId.symm))
  | none =>
    have hnot : ∀ lnd ∈ currency.lndClients, lnd.id ≠ nodeId := by simpa using hlnd
    simp only [Option.filter_eq_some_iff, decide_eq_true_eq, mem_clients]
    constructor
    · exact fun ⟨hcln, hid⟩ => ⟨.inr hcln, hid⟩
    · rintro ⟨hlnd | hcln, hid⟩
      · exact absurd hid (hnot client hlnd)
      · exact ⟨hcln, hid⟩

end Currency

/-! ## The fallback -/

/-- The first client of a list that is connected. -/
def firstConnected (ordered : List LightningClient) : Except Error LightningClient :=
  match ordered.find? LightningClient.isConnected with
  | some client => .ok client
  | none => .error .noAvailableLightningClient

theorem firstConnected_eq_ok {ordered : List LightningClient} :
    firstConnected ordered = .ok client ↔
      ordered.find? LightningClient.isConnected = some client := by
  unfold firstConnected
  cases ordered.find? LightningClient.isConnected <;> simp

/-- Skipping an id that is in the map already does not skip another client. -/
theorem find?_foldl_setIfAbsent (p : LightningClient → Bool) :
    ∀ rest unique : List LightningClient, (∀ client ∈ rest, client ∈ currency.clients) →
      (∀ client ∈ unique, client ∈ currency.clients) →
      (rest.foldl setIfAbsent unique).find? p = (unique ++ rest).find? p
  | [], unique, _, _ => by simp
  | candidate :: rest, unique, hrest, hunique => by
    obtain ⟨hcandidate, hrest⟩ := List.forall_mem_cons.mp hrest
    rw [List.foldl_cons]
    by_cases hany : unique.any (·.id = candidate.id)
    · obtain ⟨seen, hseen, hid⟩ := List.any_eq_true.mp hany
      have hsame : seen = candidate :=
        Currency.eq_of_id_eq (hunique seen hseen) hcandidate (by simpa using hid)
      rw [show setIfAbsent unique candidate = unique from if_pos hany,
        find?_foldl_setIfAbsent p rest unique hrest hunique, List.find?_append, List.find?_append,
        List.find?_cons]
      cases hp : p candidate with
      | false => rfl
      | true =>
        obtain ⟨found, hfound⟩ := Option.isSome_iff_exists.mp
          (List.find?_isSome.mpr ⟨seen, hseen, hsame ▸ hp⟩)
        simp [hfound]
    · have hnext : ∀ client ∈ unique ++ [candidate], client ∈ currency.clients := by
        intro client hclient
        rcases List.mem_append.mp hclient with hclient | hclient
        · exact hunique client hclient
        · exact List.mem_singleton.mp hclient ▸ hcandidate
      rw [show setIfAbsent unique candidate = unique ++ [candidate] from if_neg hany,
        find?_foldl_setIfAbsent p rest _ hrest hnext, List.append_assoc, List.singleton_append]

theorem fallback_eq {client : Option LightningClient}
    (h : ∀ c ∈ client, c ∈ currency.clients) :
    fallback currency client = firstConnected (client.toList ++ currency.clients) := by
  have hmem : ∀ c ∈ client.toList ++ currency.clients, c ∈ currency.clients := by
    intro c hc
    rcases List.mem_append.mp hc with hc | hc
    · exact h c (Option.mem_toList.mp hc)
    · exact hc
  have hfind : (uniqueById (client.toList ++ currency.clients)).find? LightningClient.isConnected =
      (client.toList ++ currency.clients).find? LightningClient.isConnected :=
    find?_foldl_setIfAbsent _ _ [] hmem (by simp)
  simp only [fallback, firstConnected]
  rw [← hfind, ← List.head?_filter, List.append_assoc, ← Currency.clients]
  cases (uniqueById (client.toList ++ currency.clients)).filter LightningClient.isConnected <;> rfl

end Clients

/-! ## Order of priority -/

namespace NodeSwitch

variable (nodes : NodeSwitch) (currency : Currency)

/-- A BOLT11 invoice is paid by the client the config asks for, else by CLN when the amount is
not above the threshold, else by the LNDs and then CLN. Anything else is paid by CLN. -/
def swapClients (decoded : DecodedInvoice) (referral : Option String) : List LightningClient :=
  if decoded.type = .bolt11 then
    let requestedClient := nodes.requestedClient currency decoded referral
    let forAmount :=
      if requestedClient = none then
        clnForAmount currency (msatToSat decoded.amountMsat) nodes.clnAmountThreshold.submarine
      else none
    requestedClient.toList ++ forAmount.toList ++ currency.clients
  else currency.clnClient.toList

/-- CLN has failed to pay the BOLT11 invoice. -/
def clnExhausted (payments : FindPayment) (decoded : DecodedInvoice) : Bool :=
  decoded.type = .bolt11 && decoded.paymentHash.any fun paymentHash =>
    currency.clnClient.any fun cln =>
      match payments paymentHash cln.id with
      | .ok existingPayment => clnRetriesReached existingPayment
      | .error _ => false

/-- CLN is the last one to be asked when it is exhausted. -/
def swapPriority (payments : FindPayment) (decoded : DecodedInvoice) (referral : Option String) :
    List LightningClient :=
  let ordered := nodes.swapClients currency decoded referral
  if clnExhausted currency payments decoded then
    ordered.filter (·.type ≠ .cln) ++ currency.clnClient.toList
  else ordered

/-- The client the hook asks for, the one of the referral or else CLN by its threshold, the LNDs
and CLN. -/
def reversePriority (holdInvoiceAmount : ℚ) (referralId preferredNodeId : Option String) :
    List LightningClient :=
  let first :=
    match nodes.getReferralNode referralId with
    | some nodeId => currency.getLightningClientById nodeId
    | none => clnForAmount currency holdInvoiceAmount nodes.clnAmountThreshold.reverse
  (preferredNodeId.bind currency.getLightningClientById).toList ++ first.toList ++
    currency.clients

/-! ## Payments -/

section Payments

variable {nodes currency} {payments : FindPayment} {decoded : DecodedInvoice}
  {referral : Option String} {client : LightningClient}

theorem mem_of_requestedClient (h : nodes.requestedClient currency decoded referral = some client) :
    client ∈ currency.clients := by
  obtain ⟨nodeId, -, hnode⟩ := Option.bind_eq_some_iff.mp h
  exact (Currency.getLightningClientById_eq_some.mp hnode).1

theorem clnForAmount_eq_some {amount threshold : ℚ} :
    clnForAmount currency amount threshold = some client ↔
      amount ≤ threshold ∧ currency.clnClient = some client ∧ client.isConnected := by
  unfold clnForAmount
  split
  case isTrue h => simp [h, Option.filter_eq_some_iff]
  case isFalse h => simp [h]

theorem selectClient_bolt11 (h : decoded.type = .bolt11) :
    nodes.selectClient currency decoded referral =
      firstConnected (nodes.swapClients currency decoded referral) := by
  rw [selectClient, if_neg (not_not.mpr h), swapClients, if_pos h]
  cases hrequested : nodes.requestedClient currency decoded referral with
  | some requested =>
    have hmem : ∀ c ∈ some requested, c ∈ currency.clients := by
      rintro c ⟨⟩
      exact mem_of_requestedClient hrequested
    simpa using fallback_eq hmem
  | none =>
    simp only [Option.toList_none, List.nil_append, if_true]
    cases hcln : clnForAmount currency (msatToSat decoded.amountMsat)
        nodes.clnAmountThreshold.submarine with
    | some cln =>
      have hconnected := (clnForAmount_eq_some.mp hcln).2.2
      simp [firstConnected, hconnected]
    | none =>
      have hnone : ∀ c ∈ (none : Option LightningClient), c ∈ currency.clients := by simp
      simpa using fallback_eq hnone

/-- For anything but a BOLT11 invoice, the fallback starts with CLN. -/
theorem selectClient_of_ne (h : decoded.type ≠ .bolt11) :
    nodes.selectClient currency decoded referral =
      firstConnected (currency.clnClient.toList ++ currency.clients) := by
  have hcln : ∀ c ∈ currency.clnClient, c ∈ currency.clients := fun c hc =>
    Currency.mem_clients.mpr (.inr hc)
  rw [selectClient, if_pos h]
  cases hrequested : (nodes.requestedClient currency decoded referral).filter (·.type = .cln) with
  | none => exact fallback_eq hcln
  | some requested =>
    obtain ⟨hsome, htype⟩ := Option.filter_eq_some_iff.mp hrequested
    have hsame : currency.clnClient = some requested :=
      Currency.mem_cln_of_type (mem_of_requestedClient hsome) (by simpa using htype)
    show fallback currency (some requested) = _
    rw [← hsame]
    exact fallback_eq hcln

theorem mem_of_swapClients (h : client ∈ nodes.swapClients currency decoded referral) :
    client ∈ currency.clients := by
  unfold swapClients at h
  split at h
  · simp only [List.mem_append, Option.mem_toList] at h
    rcases h with (hrequested | hamount) | hclient
    · exact mem_of_requestedClient hrequested
    · split at hamount
      · exact Currency.mem_clients.mpr (.inr (clnForAmount_eq_some.mp hamount).2.1)
      · cases hamount
    · exact hclient
  · exact Currency.mem_clients.mpr (.inr (Option.mem_toList.mp h))

theorem find?_lnds :
    (currency.clients.filter (·.type ≠ .cln)).find? LightningClient.isConnected =
      currency.getConnectedLnd := by
  have hlnds : currency.lndClients.filter (·.type ≠ .cln) = currency.lndClients := by
    refine List.filter_eq_self.mpr fun lnd hlnd => ?_
    simp [currency.lnd_type lnd hlnd]
  have hcln : currency.clnClient.toList.filter (·.type ≠ .cln) = [] := by
    refine List.filter_eq_nil_iff.mpr fun cln hcln => ?_
    simp [currency.cln_type cln (Option.mem_toList.mp hcln)]
  rw [Currency.clients, List.filter_append, hlnds, hcln, List.append_nil, Currency.getConnectedLnd]

/-- Without CLN, the first connected client is an LND of the list when CLN was the first. -/
theorem find?_swapClients_lnd (h : decoded.type = .bolt11)
    (hfirst : (nodes.swapClients currency decoded referral).find? LightningClient.isConnected =
      some client) (htype : client.type = .cln) :
    ((nodes.swapClients currency decoded referral).filter (·.type ≠ .cln)).find?
      LightningClient.isConnected = currency.getConnectedLnd := by
  rw [swapClients, if_pos h] at hfirst ⊢
  have hamount : ∀ cln ∈ (if nodes.requestedClient currency decoded referral = none then
      clnForAmount currency (msatToSat decoded.amountMsat) nodes.clnAmountThreshold.submarine
      else none), cln.type = .cln := by
    intro cln hcln
    split at hcln
    · exact currency.cln_type cln (clnForAmount_eq_some.mp hcln).2.1
    · cases hcln
  have hnone : ((nodes.requestedClient currency decoded referral).toList.filter
      (·.type ≠ .cln)).find? LightningClient.isConnected = none := by
    cases hrequested : nodes.requestedClient currency decoded referral with
    | none => rfl
    | some requested =>
      by_cases hcln : requested.type = .cln
      · simp [hcln]
      · by_cases hconnected : requested.isConnected
        · rw [hrequested] at hfirst
          have hsame : requested = client := by simpa [hconnected] using hfirst
          exact absurd (hsame ▸ htype) hcln
        · simp [hcln, hconnected]
  have hskip : (Option.toList (if nodes.requestedClient currency decoded referral = none then
      clnForAmount currency (msatToSat decoded.amountMsat) nodes.clnAmountThreshold.submarine
      else none)).filter (·.type ≠ .cln) = [] := by
    refine List.filter_eq_nil_iff.mpr fun cln hcln => ?_
    simp [hamount cln (Option.mem_toList.mp hcln)]
  simp only [List.filter_append, List.find?_append, hnone, hskip, find?_lnds, List.find?_nil,
    Option.none_or]

theorem find?_filter_of_pos {p q : LightningClient → Bool} {ordered : List LightningClient}
    (h : ordered.find? p = some client) (hq : q client) :
    (ordered.filter q).find? p = some client := by
  obtain ⟨hp, before, after, rfl, hbefore⟩ := List.find?_eq_some_iff_append.mp h
  refine List.find?_eq_some_iff_append.mpr ⟨hp, before.filter q, after.filter q, ?_, ?_⟩
  · rw [List.filter_append, List.filter_cons_of_pos hq]
  · exact fun a ha => hbefore a (List.mem_of_mem_filter ha)

theorem clnExhausted_eq {paymentHash : String} {existingPayment : Option LightningPayment}
    (h : decoded.type = .bolt11) (hhash : decoded.paymentHash = some paymentHash)
    (hcln : currency.clnClient = some client)
    (hpayment : payments paymentHash client.id = .ok existingPayment) :
    clnExhausted currency payments decoded = clnRetriesReached existingPayment := by
  simp [clnExhausted, h, hhash, hcln, hpayment]

/-- A BOLT11 invoice is paid by the first connected client. -/
theorem getSwapNode_bolt11 (h : decoded.type = .bolt11)
    (hnode : nodes.getSwapNode currency payments decoded referral = .ok client) :
    (nodes.swapPriority currency payments decoded referral).find? LightningClient.isConnected =
      some client := by
  rw [getSwapNode, selectClient_bolt11 h] at hnode
  cases hselect : firstConnected (nodes.swapClients currency decoded referral) with
  | error error => rw [hselect] at hnode; cases hnode
  | ok selected =>
    have hfirst := firstConnected_eq_ok.mp hselect
    have hmem := mem_of_swapClients (List.mem_of_find?_eq_some hfirst)
    rw [hselect] at hnode
    simp only [h, and_true, bind, Except.bind, pure, Except.pure] at hnode
    unfold swapPriority
    by_cases hcln : selected.type = .cln
    · have hsome : currency.clnClient = some selected := Currency.mem_cln_of_type hmem hcln
      rw [if_pos hcln] at hnode
      cases hhash : decoded.paymentHash with
      | none =>
        have hexhausted : clnExhausted currency payments decoded = false := by
          simp [clnExhausted, hhash]
        rw [hhash] at hnode
        cases hnode
        simpa [hexhausted] using hfirst
      | some paymentHash =>
        simp only [hhash] at hnode
        cases hpayment : payments paymentHash selected.id with
        | error error => rw [hpayment] at hnode; cases hnode
        | ok existingPayment =>
          rw [clnExhausted_eq h hhash hsome hpayment]
          simp only [hpayment] at hnode
          cases hreached : clnRetriesReached existingPayment with
          | false =>
            simp only [hreached, Bool.false_eq_true, if_false] at hnode ⊢
            cases hnode
            exact hfirst
          | true =>
            simp only [hreached, if_true] at hnode ⊢
            rw [List.find?_append, find?_swapClients_lnd h hfirst hcln]
            cases hlnd : currency.getConnectedLnd with
            | some lnd => simpa [hlnd] using hnode
            | none =>
              have hnone : ∀ c ∈ (none : Option LightningClient), c ∈ currency.clients := by simp
              have hfallback : fallback currency = firstConnected currency.clients :=
                fallback_eq hnone
              simp only [hlnd, hfallback, firstConnected_eq_ok, Currency.clients,
                List.find?_append] at hnode
              rwa [show currency.lndClients.find? LightningClient.isConnected = none from hlnd]
                at hnode
    · rw [if_neg hcln] at hnode
      cases hnode
      split
      · rw [List.find?_append, find?_filter_of_pos hfirst (by simpa using hcln), Option.some_or]
      · exact hfirst

/-- Anything else is paid by CLN, or by an LND when CLN is not there. -/
theorem getSwapNode_of_ne (h : decoded.type ≠ .bolt11) :
    nodes.getSwapNode currency payments decoded referral =
      firstConnected (currency.clnClient.toList ++ currency.clients) := by
  rw [getSwapNode, selectClient_of_ne h]
  cases firstConnected (currency.clnClient.toList ++ currency.clients) with
  | error error => rfl
  | ok client => simp [h, bind, Except.bind, pure, Except.pure]

theorem swapPriority_of_ne (h : decoded.type ≠ .bolt11) :
    nodes.swapPriority currency payments decoded referral = currency.clnClient.toList := by
  simp [swapPriority, clnExhausted, swapClients, h]

theorem mem_of_swapPriority
    (h : client ∈ nodes.swapPriority currency payments decoded referral) :
    client ∈ currency.clients := by
  unfold swapPriority at h
  split at h
  · rcases List.mem_append.mp h with hother | hcln
    · exact mem_of_swapClients (List.mem_of_mem_filter hother)
    · exact Currency.mem_clients.mpr (.inr (Option.mem_toList.mp hcln))
  · exact mem_of_swapClients h

end Payments

/-! ## Candidates of reverse swaps -/

section Candidates

variable {nodes currency} {client : LightningClient} {nodeId : String} {ordered : List LightningClient}

theorem getOrderedClients_eq (preferredNodeId : Option String) :
    getOrderedClients currency preferredNodeId =
      ((preferredNodeId.bind currency.getLightningClientById).toList ++
        currency.clients).eraseDups := by
  unfold getOrderedClients
  cases hpreferred : preferredNodeId.bind currency.getLightningClientById with
  | none => exact (eraseDups_of_nodup currency.clients_nodup).symm
  | some preferred =>
    obtain ⟨nodeId, -, hnode⟩ := Option.bind_eq_some_iff.mp hpreferred
    have hmem := (Currency.getLightningClientById_eq_some.mp hnode).1
    have hids : currency.clients.filter (·.id ≠ preferred.id) =
        currency.clients.filter (· ≠ preferred) :=
      List.filter_congr fun other hother => by
        rw [decide_eq_decide]
        exact Currency.id_ne_iff hother hmem
    show preferred :: currency.clients.filter (·.id ≠ preferred.id) =
      (preferred :: currency.clients).eraseDups
    rw [hids, ← cons_filter_ne, eraseDups_of_nodup currency.clients_nodup]

/-- The connected ones of a list, each once. -/
def connectedOnes (ordered : List LightningClient) : List LightningClient :=
  ordered.eraseDups.filter LightningClient.isConnected

theorem mem_connectedOnes :
    client ∈ connectedOnes ordered ↔ client ∈ ordered ∧ client.isConnected := by
  rw [connectedOnes, List.mem_filter, List.mem_eraseDups]

theorem connectedOnes_nodup (ordered : List LightningClient) : (connectedOnes ordered).Nodup :=
  (nodup_eraseDups ordered).filter _

theorem connectedOnes_cons_of_connected (h : client.isConnected) :
    connectedOnes (client :: ordered) =
      client :: (connectedOnes ordered).filter (· ≠ client) := by
  rw [connectedOnes, ← cons_filter_ne, List.filter_cons_of_pos h, connectedOnes, List.filter_comm]

theorem connectedOnes_cons_of_not (h : ¬client.isConnected) :
    connectedOnes (client :: ordered) = connectedOnes ordered := by
  rw [connectedOnes, ← filter_eraseDups, List.filter_cons_of_neg h, filter_eraseDups, connectedOnes]

/-- The CLN of a currency is the only client of its type. -/
theorem find?_cln (hordered : ∀ client ∈ ordered, client ∈ currency.clients)
    (hcln : currency.clnClient = some client) (hmem : client ∈ ordered) :
    ordered.find? (·.type = .cln) = some client := by
  have hsome : (ordered.find? (·.type = .cln)).isSome :=
    List.find?_isSome.mpr ⟨client, hmem, by simpa using currency.cln_type client hcln⟩
  obtain ⟨found, hfound⟩ := Option.isSome_iff_exists.mp hsome
  have htype : found.type = .cln := by simpa using List.find?_some hfound
  have hfoundCln := Currency.mem_cln_of_type
    (hordered found (List.mem_of_find?_eq_some hfound)) htype
  rw [hfound, ← hcln]
  exact hfoundCln.symm

/-- A client is the only one with its id. -/
theorem find?_id (hordered : ∀ client ∈ ordered, client ∈ currency.clients) :
    ordered.find? (·.id = nodeId) =
      (currency.getLightningClientById nodeId).filter (· ∈ ordered) := by
  cases hfound : ordered.find? (·.id = nodeId) with
  | some found =>
    have hmem := List.mem_of_find?_eq_some hfound
    have hid : found.id = nodeId := by simpa using List.find?_some hfound
    have hnode := Currency.getLightningClientById_eq_some.mpr ⟨hordered found hmem, hid⟩
    rw [hnode]
    exact (Option.filter_eq_some_iff.mpr ⟨rfl, by simpa using hmem⟩).symm
  | none =>
    have hnot : ∀ other ∈ ordered, other.id ≠ nodeId := by simpa using hfound
    symm
    rw [Option.filter_eq_none_iff]
    intro other hother hmem
    exact hnot other (by simpa using hmem) (Currency.getLightningClientById_eq_some.mp hother).2

/-- The candidates when the hook asks for none. -/
theorem preferCln_eq (holdInvoiceAmount : ℚ) (referralId : Option String) :
    nodes.preferCln currency holdInvoiceAmount (nodes.getReferralNode referralId)
        (getBolt11Candidates currency (nodes.getReferralNode referralId)) =
      (connectedOnes (nodes.reversePriority currency holdInvoiceAmount referralId none)).map
        Candidate.ofClient := by
  have hordered : ∀ referralNodeId, getBolt11Candidates currency referralNodeId =
      (connectedOnes ((referralNodeId.bind currency.getLightningClientById).toList ++
        currency.clients)).map Candidate.ofClient := by
    intro referralNodeId
    rw [connectedOnes, ← getOrderedClients_eq, getBolt11Candidates]
  cases hreferral : nodes.getReferralNode referralId with
  | some referralNode =>
    rw [preferCln, if_neg (by simp), hordered]
    simp [reversePriority, hreferral]
  | none =>
    have hclients : getBolt11Candidates currency none =
        (connectedOnes currency.clients).map Candidate.ofClient := by
      simpa using hordered none
    cases hcln : clnForAmount currency holdInvoiceAmount nodes.clnAmountThreshold.reverse with
    | none =>
      rw [preferCln, if_neg (by simp [hcln]), hclients]
      simp [reversePriority, hreferral, hcln]
    | some cln =>
      obtain ⟨-, hsome, hconnected⟩ := clnForAmount_eq_some.mp hcln
      have hmem : cln ∈ currency.clients := Currency.mem_clients.mpr (.inr hsome)
      have hfind : (getBolt11Candidates currency none).find? (·.nodeType = .cln) =
          some (Candidate.ofClient cln) := by
        rw [hclients, List.find?_map]
        have hfound := find?_cln (fun _ h => (mem_connectedOnes.mp h).1) hsome
          (mem_connectedOnes.mpr ⟨hmem, hconnected⟩)
        exact congrArg (Option.map Candidate.ofClient) hfound
      have hids : (connectedOnes currency.clients).filter (·.id ≠ cln.id) =
          (connectedOnes currency.clients).filter (· ≠ cln) :=
        List.filter_congr fun other hother => by
          rw [decide_eq_decide]
          exact Currency.id_ne_iff (mem_connectedOnes.mp hother).1 hmem
      have hfilter : (getBolt11Candidates currency none).filter
          (·.nodeId ≠ (Candidate.ofClient cln).nodeId) =
            ((connectedOnes currency.clients).filter (· ≠ cln)).map Candidate.ofClient := by
        rw [hclients, List.filter_map, ← hids]
        rfl
      have hpriority : nodes.reversePriority currency holdInvoiceAmount referralId none =
          cln :: currency.clients := by
        simp [reversePriority, hreferral, hcln]
      rw [preferCln, if_pos ⟨rfl, by simp [hcln]⟩, hfind, hpriority,
        connectedOnes_cons_of_connected hconnected, List.map_cons, ← hfilter]

theorem reversePriority_mem {holdInvoiceAmount : ℚ} {referralId : Option String}
    (h : client ∈ nodes.reversePriority currency holdInvoiceAmount referralId none) :
    client ∈ currency.clients := by
  simp only [reversePriority, Option.bind_none, Option.toList_none, List.nil_append,
    List.mem_append, Option.mem_toList] at h
  rcases h with hfirst | hclient
  · split at hfirst
    · exact (Currency.getLightningClientById_eq_some.mp hfirst).1
    · exact Currency.mem_clients.mpr (.inr (clnForAmount_eq_some.mp hfirst).2.1)
  · exact hclient

/-- The candidates are the connected clients in the order of priority, each once. -/
theorem getReverseSwapCandidates_eq (holdInvoiceAmount : ℚ)
    (referralId preferredNodeId : Option String) :
    nodes.getReverseSwapCandidates currency holdInvoiceAmount referralId preferredNodeId =
      (connectedOnes (nodes.reversePriority currency holdInvoiceAmount referralId
        preferredNodeId)).map Candidate.ofClient := by
  simp only [getReverseSwapCandidates, preferCln_eq]
  cases preferredNodeId with
  | none => rfl
  | some preferredNodeId =>
    set priority := nodes.reversePriority currency holdInvoiceAmount referralId none with hpriority
    have hmem : ∀ c ∈ connectedOnes priority, c ∈ currency.clients := fun c hc =>
      reversePriority_mem (mem_connectedOnes.mp hc).1
    have hall : ∀ c ∈ currency.clients, c ∈ priority := fun c hc =>
      List.mem_append_right _ hc
    have hfind : ((connectedOnes priority).map Candidate.ofClient).find?
        (·.nodeId = preferredNodeId) =
          ((currency.getLightningClientById preferredNodeId).filter
            (· ∈ connectedOnes priority)).map Candidate.ofClient := by
      rw [List.find?_map, ← find?_id hmem]
      rfl
    have hcons : nodes.reversePriority currency holdInvoiceAmount referralId
        (some preferredNodeId) =
          (currency.getLightningClientById preferredNodeId).toList ++ priority := by
      simp [hpriority, reversePriority]
    simp only [hfind, hcons]
    cases hnode : currency.getLightningClientById preferredNodeId with
    | none => rfl
    | some preferred =>
      have hclient := (Currency.getLightningClientById_eq_some.mp hnode).1
      have hiff : preferred ∈ connectedOnes priority ↔ preferred.isConnected := by
        simp [mem_connectedOnes, hall preferred hclient]
      by_cases hconnected : preferred.isConnected
      · have hfilter : ((connectedOnes priority).map Candidate.ofClient).filter
            (· ≠ Candidate.ofClient preferred) =
              ((connectedOnes priority).filter (· ≠ preferred)).map Candidate.ofClient := by
          rw [List.filter_map]
          refine congrArg _ (List.filter_congr fun other _ => ?_)
          simp only [Function.comp_apply, decide_eq_decide]
          exact not_congr ⟨congrArg Candidate.lightningClient, congrArg _⟩
        simp only [Option.filter_some, hiff, hconnected, decide_true, if_true, Option.map_some,
          hfilter, Option.toList_some, List.singleton_append,
          connectedOnes_cons_of_connected hconnected, List.map_cons]
      · have hskip : (some preferred).filter (· ∈ connectedOnes priority) = none :=
          Option.filter_eq_none_iff.mpr fun other hother hmem =>
            hconnected (hiff.mp (by cases hother; simpa using hmem))
        simp only [hskip, Option.map_none, Option.toList_some, List.singleton_append,
          connectedOnes_cons_of_not hconnected]

end Candidates

/-! ## The selection -/

/-- What the selection promises. -/
structure SelectsUsable (nodes : NodeSwitch) (currency : Currency) (payments : FindPayment)
    (decoded : DecodedInvoice) (referral : Option String) : Prop where
  /-- The node of a swap can be used and is the first one of the priority. -/
  swapNode : ∀ client, nodes.getSwapNode currency payments decoded referral = .ok client →
    client.isConnected ∧ client ∈ currency.clients ∧
      (decoded.type ≠ .bolt11 → client.type ≠ .lnd) ∧
      (nodes.swapPriority currency payments decoded referral).find?
        LightningClient.isConnected = some client
  /-- So are the candidates of a reverse swap. -/
  candidates : ∀ (holdInvoiceAmount : ℚ) (referralId preferredNodeId : Option String),
    let listed := (nodes.getReverseSwapCandidates currency holdInvoiceAmount referralId
      preferredNodeId).map Candidate.lightningClient
    listed.Nodup ∧ (∀ client ∈ listed, client.isConnected ∧ client ∈ currency.clients) ∧
      listed = (nodes.reversePriority currency holdInvoiceAmount referralId
        preferredNodeId).eraseDups.filter LightningClient.isConnected

section Selection

variable {nodes currency} {payments : FindPayment} {decoded : DecodedInvoice}
  {referral : Option String}

theorem mem_of_reversePriority {client : LightningClient} {holdInvoiceAmount : ℚ}
    {referralId preferredNodeId : Option String}
    (h : client ∈ nodes.reversePriority currency holdInvoiceAmount referralId preferredNodeId) :
    client ∈ currency.clients := by
  rw [reversePriority, List.append_assoc] at h
  rcases List.mem_append.mp h with hpreferred | hrest
  · obtain ⟨nodeId, -, hnode⟩ := Option.bind_eq_some_iff.mp (Option.mem_toList.mp hpreferred)
    exact (Currency.getLightningClientById_eq_some.mp hnode).1
  · have hdefault : client ∈ nodes.reversePriority currency holdInvoiceAmount referralId none :=
      hrest
    exact reversePriority_mem hdefault

theorem candidates_usable (holdInvoiceAmount : ℚ) (referralId preferredNodeId : Option String) :
    let listed := (nodes.getReverseSwapCandidates currency holdInvoiceAmount referralId
      preferredNodeId).map Candidate.lightningClient
    listed.Nodup ∧ (∀ client ∈ listed, client.isConnected ∧ client ∈ currency.clients) ∧
      listed = (nodes.reversePriority currency holdInvoiceAmount referralId
        preferredNodeId).eraseDups.filter LightningClient.isConnected := by
  intro listed
  have hlisted : listed = connectedOnes (nodes.reversePriority currency holdInvoiceAmount
      referralId preferredNodeId) := by
    have hid : Candidate.lightningClient ∘ Candidate.ofClient = id := rfl
    simp only [listed, getReverseSwapCandidates_eq, List.map_map, hid, List.map_id]
  rw [hlisted]
  refine ⟨connectedOnes_nodup _, fun client hclient => ?_, rfl⟩
  obtain ⟨hmem, hconnected⟩ := mem_connectedOnes.mp hclient
  exact ⟨hconnected, mem_of_reversePriority hmem⟩

theorem usable_of_first {client : LightningClient}
    (hfirst : (nodes.swapPriority currency payments decoded referral).find?
      LightningClient.isConnected = some client) :
    client.isConnected ∧ client ∈ currency.clients :=
  ⟨List.find?_some hfirst, mem_of_swapPriority (List.mem_of_find?_eq_some hfirst)⟩

end Selection

end NodeSwitch

/-- The selection keeps its promise exactly when the invoice is not a BOLT12 one, CLN is connected
or no LND is: otherwise the fallback gives an LND that cannot pay the invoice. -/
theorem getSwapNode_usable_iff (nodes : NodeSwitch) (currency : Currency) (payments : FindPayment)
    (decoded : DecodedInvoice) (referral : Option String) :
    nodes.SelectsUsable currency payments decoded referral ↔
      decoded.type = .bolt11 ∨ (∃ cln ∈ currency.clnClient, cln.isConnected) ∨
        ∀ lnd ∈ currency.lndClients, ¬lnd.isConnected := by
  have hlnds : currency.getConnectedLnd = none ↔
      ∀ lnd ∈ currency.lndClients, ¬lnd.isConnected := List.find?_eq_none
  by_cases hbolt11 : decoded.type = .bolt11
  · refine iff_of_true ⟨fun client hnode => ?_, NodeSwitch.candidates_usable⟩ (.inl hbolt11)
    have hfirst := NodeSwitch.getSwapNode_bolt11 hbolt11 hnode
    obtain ⟨hconnected, hmem⟩ := NodeSwitch.usable_of_first hfirst
    exact ⟨hconnected, hmem, fun hne => absurd hbolt11 hne, hfirst⟩
  · have hnode : nodes.getSwapNode currency payments decoded referral =
        firstConnected (currency.clnClient.toList ++ currency.clients) :=
      NodeSwitch.getSwapNode_of_ne hbolt11
    have hpriority : nodes.swapPriority currency payments decoded referral =
        currency.clnClient.toList :=
      NodeSwitch.swapPriority_of_ne hbolt11
    rw [or_iff_right hbolt11]
    constructor
    · intro husable
      by_contra hcond
      push Not at hcond
      obtain ⟨hcln, lnd, hlnd, hconnected⟩ := hcond
      obtain ⟨found, hfound⟩ := Option.ne_none_iff_exists'.mp
        (fun hnone => hlnds.mp hnone lnd hlnd hconnected)
      have hskip : currency.clnClient.toList.find? LightningClient.isConnected = none :=
        List.find?_eq_none.mpr fun cln hmem => by simpa using hcln cln (Option.mem_toList.mp hmem)
      have hfirst : (currency.clnClient.toList ++ currency.clients).find?
          LightningClient.isConnected = some found := by
        rw [Currency.getConnectedLnd] at hfound
        rw [List.find?_append, hskip, Option.none_or, Currency.clients, List.find?_append, hfound,
          Option.some_or]
      have htype := (husable.swapNode found (hnode.trans (firstConnected_eq_ok.mpr hfirst))).2.2.1
      exact htype hbolt11 (currency.lnd_type found (List.mem_of_find?_eq_some hfound))
    · intro hcond
      refine ⟨fun client hclient => ?_, NodeSwitch.candidates_usable⟩
      have hfirst := firstConnected_eq_ok.mp (hnode.symm.trans hclient)
      have hcln : currency.clnClient.toList.find? LightningClient.isConnected = some client := by
        rw [List.find?_append, Currency.clients, List.find?_append] at hfirst
        rcases hcond with ⟨cln, hsome, hconnected⟩ | hnone
        · have hsome : currency.clnClient = some cln := hsome
          simpa [hsome, hconnected] using hfirst
        · rw [List.find?_eq_none.mpr hnone, Option.none_or, Option.or_self] at hfirst
          exact hfirst
      rw [← hpriority] at hcln
      obtain ⟨hconnected, hmem⟩ := NodeSwitch.usable_of_first hcln
      refine ⟨hconnected, hmem, fun _ hlnd => ?_, hcln⟩
      rw [hpriority] at hcln
      have htype := currency.cln_type client
        (Option.mem_toList.mp (List.mem_of_find?_eq_some hcln))
      exact absurd (htype.symm.trans hlnd) (by decide)

/-- The only LND is connected and CLN is not. -/
def lndOnly : Currency where
  lndClients := [⟨"lnd", .lnd, true⟩]
  clnClient := some ⟨"cln", .cln, false⟩
  lnd_type := by simp
  cln_type := by simp
  ids_nodup := by simp

theorem getSwapNode_lndOnly {type : InvoiceType}
    (htype : type = .bolt12Invoice ∨ type = .offer) :
    ({} : NodeSwitch).getSwapNode lndOnly (fun _ _ => .ok none) { type } none =
        .ok ⟨"lnd", .lnd, true⟩ ∧
      ¬({} : NodeSwitch).SelectsUsable lndOnly (fun _ _ => .ok none) { type } none := by
  have hnode : ({} : NodeSwitch).getSwapNode lndOnly (fun _ _ => .ok none) { type } none =
      .ok ⟨"lnd", .lnd, true⟩ := by
    rcases htype with rfl | rfl <;> rfl
  refine ⟨hnode, fun h => (h.swapNode _ hnode).2.2.1 ?_ rfl⟩
  rcases htype with rfl | rfl <;> decide

/-- A BOLT12 invoice is given to an LND, and so is an offer. -/
theorem offer_given_to_lnd :
    (({} : NodeSwitch).getSwapNode lndOnly (fun _ _ => .ok none) { type := .bolt12Invoice } none =
        .ok ⟨"lnd", .lnd, true⟩ ∧
      ¬({} : NodeSwitch).SelectsUsable lndOnly (fun _ _ => .ok none)
        { type := .bolt12Invoice } none) ∧
    ({} : NodeSwitch).getSwapNode lndOnly (fun _ _ => .ok none) { type := .offer } none =
        .ok ⟨"lnd", .lnd, true⟩ ∧
      ¬({} : NodeSwitch).SelectsUsable lndOnly (fun _ _ => .ok none) { type := .offer } none :=
  ⟨getSwapNode_lndOnly (.inl rfl), getSwapNode_lndOnly (.inr rfl)⟩

end Boltz.NodeSelection
