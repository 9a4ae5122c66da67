import CashuService.Base.Serde
set_option autoImplicit false

namespace CashuService

/-! `spilman.rs`: the payment messages of a metered route and their JSON form. The text that
`serde_json` writes for a JSON value stands for that value, so the wire carries values. -/

structure CashuSpilmanPayment where
  channelId : String
  balance : UInt64
  signature : String
  params : Option Json
  fundingProofs : Option Json

structure StreamingRouteChannelOpen where
  mintUrl : String
  unit : String
  capacity : UInt64
  expiresUnix : UInt64
  receiverPubkeyHex : String
  paidMsat : UInt64
  payment : CashuSpilmanPayment

structure StreamingRouteBalanceUpdate where
  deliveredUnits : UInt64
  amountDueMsat : UInt64
  paidMsat : UInt64
  payment : CashuSpilmanPayment

structure StreamingRouteCooperativeClose where
  finalPaidMsat : UInt64
  payment : CashuSpilmanPayment

structure StreamingRouteCooperativeCloseAck where
  channelId : String
  acceptedBalance : UInt64
  acceptedPaidMsat : UInt64
  closedAtUnix : UInt64
  receipt : Option Json

structure StreamingRouteCashuTokenLease where
  channelId : String
  mintUrl : String
  unit : String
  amount : UInt64
  paidMsat : UInt64
  expiresUnix : UInt64
  token : String

inductive StreamingRoutePaymentPayload where
  | channelOpen (openChannel : StreamingRouteChannelOpen)
  | balanceUpdate (update : StreamingRouteBalanceUpdate)
  | cooperativeClose (close : StreamingRouteCooperativeClose)
  | cooperativeCloseAck (ack : StreamingRouteCooperativeCloseAck)
  | cashuTokenLease (lease : StreamingRouteCashuTokenLease)

structure StreamingRoutePaymentEnvelope where
  version : UInt16
  serviceId : String
  leaseId : String
  buyer : String
  seller : String
  sentAtUnix : UInt64
  payload : StreamingRoutePaymentPayload

def streamingRoutePaymentProtocolVersion : UInt16 := 1

def defaultStreamingRouteCashuUnit : String := "sat"

namespace CashuSpilmanPayment

def hasFunding (self : CashuSpilmanPayment) : Bool :=
  self.params.isSome && self.fundingProofs.isSome

def toJson (self : CashuSpilmanPayment) : Json := .object
  (("channel_id", .string self.channelId) ::
   ("balance", .ofU64 self.balance) ::
   ("signature", .string self.signature) ::
   skipNone "params" self.params (skipNone "funding_proofs" self.fundingProofs []))

def fromJson (json : Json) : Except DecodeError CashuSpilmanPayment := do
  let fields ← json.asObject
  return {
    channelId := ← required Json.asString fields "channel_id"
    balance := ← required Json.asU64 fields "balance"
    signature := ← required Json.asString fields "signature"
    params := ← optional fields "params"
    fundingProofs := ← optional fields "funding_proofs" }

end CashuSpilmanPayment

namespace StreamingRouteChannelOpen

def toFields (self : StreamingRouteChannelOpen) : Fields :=
  [("mint_url", .string self.mintUrl),
   ("unit", .string self.unit),
   ("capacity", .ofU64 self.capacity),
   ("expires_unix", .ofU64 self.expiresUnix),
   ("receiver_pubkey_hex", .string self.receiverPubkeyHex),
   ("paid_msat", .ofU64 self.paidMsat),
   ("payment", self.payment.toJson)]

def fromFields (fields : Fields) : Except DecodeError StreamingRouteChannelOpen := do
  return {
    mintUrl := ← required Json.asString fields "mint_url"
    unit := ← required Json.asString fields "unit"
    capacity := ← required Json.asU64 fields "capacity"
    expiresUnix := ← required Json.asU64 fields "expires_unix"
    receiverPubkeyHex := ← required Json.asString fields "receiver_pubkey_hex"
    paidMsat := ← required Json.asU64 fields "paid_msat"
    payment := ← required CashuSpilmanPayment.fromJson fields "payment" }

end StreamingRouteChannelOpen

namespace StreamingRouteBalanceUpdate

def toFields (self : StreamingRouteBalanceUpdate) : Fields :=
  [("delivered_units", .ofU64 self.deliveredUnits),
   ("amount_due_msat", .ofU64 self.amountDueMsat),
   ("paid_msat", .ofU64 self.paidMsat),
   ("payment", self.payment.toJson)]

def fromFields (fields : Fields) : Except DecodeError StreamingRouteBalanceUpdate := do
  return {
    deliveredUnits := ← required Json.asU64 fields "delivered_units"
    amountDueMsat := ← required Json.asU64 fields "amount_due_msat"
    paidMsat := ← required Json.asU64 fields "paid_msat"
    payment := ← required CashuSpilmanPayment.fromJson fields "payment" }

end StreamingRouteBalanceUpdate

namespace StreamingRouteCooperativeClose

def toFields (self : StreamingRouteCooperativeClose) : Fields :=
  [("final_paid_msat", .ofU64 self.finalPaidMsat), ("payment", self.payment.toJson)]

def fromFields (fields : Fields) : Except DecodeError StreamingRouteCooperativeClose := do
  return {
    finalPaidMsat := ← required Json.asU64 fields "final_paid_msat"
    payment := ← required CashuSpilmanPayment.fromJson fields "payment" }

end StreamingRouteCooperativeClose

namespace StreamingRouteCooperativeCloseAck

def toFields (self : StreamingRouteCooperativeCloseAck) : Fields :=
  ("channel_id", .string self.channelId) ::
  ("accepted_balance", .ofU64 self.acceptedBalance) ::
  ("accepted_paid_msat", .ofU64 self.acceptedPaidMsat) ::
  ("closed_at_unix", .ofU64 self.closedAtUnix) ::
  skipNone "receipt" self.receipt []

def fromFields (fields : Fields) : Except DecodeError StreamingRouteCooperativeCloseAck := do
  return {
    channelId := ← required Json.asString fields "channel_id"
    acceptedBalance := ← required Json.asU64 fields "accepted_balance"
    acceptedPaidMsat := ← required Json.asU64 fields "accepted_paid_msat"
    closedAtUnix := ← required Json.asU64 fields "closed_at_unix"
    receipt := ← optional fields "receipt" }

end StreamingRouteCooperativeCloseAck

namespace StreamingRouteCashuTokenLease

def toFields (self : StreamingRouteCashuTokenLease) : Fields :=
  [("channel_id", .string self.channelId),
   ("mint_url", .string self.mintUrl),
   ("unit", .string self.unit),
   ("amount", .ofU64 self.amount),
   ("paid_msat", .ofU64 self.paidMsat),
   ("expires_unix", .ofU64 self.expiresUnix),
   ("token", .string self.token)]

def fromFields (fields : Fields) : Except DecodeError StreamingRouteCashuTokenLease := do
  return {
    channelId := ← required Json.asString fields "channel_id"
    mintUrl := ← required Json.asString fields "mint_url"
    unit := ← withDefault defaultStreamingRouteCashuUnit Json.asString fields "unit"
    amount := ← required Json.asU64 fields "amount"
    paidMsat := ← required Json.asU64 fields "paid_msat"
    expiresUnix := ← required Json.asU64 fields "expires_unix"
    token := ← required Json.asString fields "token" }

end StreamingRouteCashuTokenLease

namespace StreamingRoutePaymentPayload

def channelId : StreamingRoutePaymentPayload → String
  | .channelOpen openChannel => openChannel.payment.channelId
  | .balanceUpdate update => update.payment.channelId
  | .cooperativeClose close => close.payment.channelId
  | .cooperativeCloseAck ack => ack.channelId
  | .cashuTokenLease lease => lease.channelId

def toJson : StreamingRoutePaymentPayload → Json
  | .channelOpen openChannel => tagged "type" "channel_open" openChannel.toFields
  | .balanceUpdate update => tagged "type" "balance_update" update.toFields
  | .cooperativeClose close => tagged "type" "cooperative_close" close.toFields
  | .cooperativeCloseAck ack => tagged "type" "cooperative_close_ack" ack.toFields
  | .cashuTokenLease lease => tagged "type" "cashu_token_lease" lease.toFields

def fromJson (json : Json) : Except DecodeError StreamingRoutePaymentPayload := do
  let (variant, fields) ← untag "type" json
  match variant with
  | "channel_open" => return .channelOpen (← StreamingRouteChannelOpen.fromFields fields)
  | "balance_update" => return .balanceUpdate (← StreamingRouteBalanceUpdate.fromFields fields)
  | "cooperative_close" =>
    return .cooperativeClose (← StreamingRouteCooperativeClose.fromFields fields)
  | "cooperative_close_ack" =>
    return .cooperativeCloseAck (← StreamingRouteCooperativeCloseAck.fromFields fields)
  | "cashu_token_lease" =>
    return .cashuTokenLease (← StreamingRouteCashuTokenLease.fromFields fields)
  | _ => throw (.unknownVariant variant)

end StreamingRoutePaymentPayload

namespace StreamingRoutePaymentEnvelope

def channelId (self : StreamingRoutePaymentEnvelope) : String := self.payload.channelId

def toJson (self : StreamingRoutePaymentEnvelope) : Json := .object
  [("version", .ofU16 self.version),
   ("service_id", .string self.serviceId),
   ("lease_id", .string self.leaseId),
   ("buyer", .string self.buyer),
   ("seller", .string self.seller),
   ("sent_at_unix", .ofU64 self.sentAtUnix),
   ("payload", self.payload.toJson)]

def fromJson (json : Json) : Except DecodeError StreamingRoutePaymentEnvelope := do
  let fields ← json.asObject
  return {
    version := ← withDefault streamingRoutePaymentProtocolVersion Json.asU16 fields "version"
    serviceId := ← required Json.asString fields "service_id"
    leaseId := ← required Json.asString fields "lease_id"
    buyer := ← required Json.asString fields "buyer"
    seller := ← required Json.asString fields "seller"
    sentAtUnix := ← required Json.asU64 fields "sent_at_unix"
    payload := ← required StreamingRoutePaymentPayload.fromJson fields "payload" }

end StreamingRoutePaymentEnvelope

def CashuSpilmanPayment.received (self : CashuSpilmanPayment) : CashuSpilmanPayment :=
  { self with params := arriving self.params, fundingProofs := arriving self.fundingProofs }

def StreamingRoutePaymentPayload.received :
    StreamingRoutePaymentPayload → StreamingRoutePaymentPayload
  | .channelOpen openChannel =>
    .channelOpen { openChannel with payment := openChannel.payment.received }
  | .balanceUpdate update => .balanceUpdate { update with payment := update.payment.received }
  | .cooperativeClose close => .cooperativeClose { close with payment := close.payment.received }
  | .cooperativeCloseAck ack => .cooperativeCloseAck { ack with receipt := arriving ack.receipt }
  | .cashuTokenLease lease => .cashuTokenLease lease

def StreamingRoutePaymentEnvelope.received (self : StreamingRoutePaymentEnvelope) :
    StreamingRoutePaymentEnvelope :=
  { self with payload := self.payload.received }

theorem CashuSpilmanPayment.fromJson_toJson (self : CashuSpilmanPayment) :
    fromJson self.toJson = .ok self.received := by
  simp [fromJson, toJson, Json.asObject, received, pure, Except.pure, Except.ok_bind,
    -Except.bind_eq_ok]

namespace StreamingRoutePaymentPayload

theorem fromJson_channelOpen (openChannel : StreamingRouteChannelOpen) :
    fromJson (toJson (.channelOpen openChannel)) = .ok (received (.channelOpen openChannel)) := by
  have htag : getField openChannel.toFields "type" = .ok none := by
    simp [StreamingRouteChannelOpen.toFields]
  simp only [fromJson, toJson, untag_tagged htag, Except.ok_bind]
  simp [StreamingRouteChannelOpen.toFields, StreamingRouteChannelOpen.fromFields,
    CashuSpilmanPayment.fromJson_toJson, received, pure, Except.pure, Except.ok_bind,
    -Except.bind_eq_ok]

theorem fromJson_balanceUpdate (update : StreamingRouteBalanceUpdate) :
    fromJson (toJson (.balanceUpdate update)) = .ok (received (.balanceUpdate update)) := by
  have htag : getField update.toFields "type" = .ok none := by
    simp [StreamingRouteBalanceUpdate.toFields]
  simp only [fromJson, toJson, untag_tagged htag, Except.ok_bind]
  simp [StreamingRouteBalanceUpdate.toFields, StreamingRouteBalanceUpdate.fromFields,
    CashuSpilmanPayment.fromJson_toJson, received, pure, Except.pure, Except.ok_bind,
    -Except.bind_eq_ok]

theorem fromJson_cooperativeClose (close : StreamingRouteCooperativeClose) :
    fromJson (toJson (.cooperativeClose close)) = .ok (received (.cooperativeClose close)) := by
  have htag : getField close.toFields "type" = .ok none := by
    simp [StreamingRouteCooperativeClose.toFields]
  simp only [fromJson, toJson, untag_tagged htag, Except.ok_bind]
  simp [StreamingRouteCooperativeClose.toFields, StreamingRouteCooperativeClose.fromFields,
    CashuSpilmanPayment.fromJson_toJson, received, pure, Except.pure, Except.ok_bind,
    -Except.bind_eq_ok]

theorem fromJson_cooperativeCloseAck (ack : StreamingRouteCooperativeCloseAck) :
    fromJson (toJson (.cooperativeCloseAck ack)) = .ok (received (.cooperativeCloseAck ack)) := by
  have htag : getField ack.toFields "type" = .ok none := by
    simp [StreamingRouteCooperativeCloseAck.toFields]
  simp only [fromJson, toJson, untag_tagged htag, Except.ok_bind]
  simp [StreamingRouteCooperativeCloseAck.toFields, StreamingRouteCooperativeCloseAck.fromFields,
    received, pure, Except.pure, Except.ok_bind, -Except.bind_eq_ok]

theorem fromJson_cashuTokenLease (lease : StreamingRouteCashuTokenLease) :
    fromJson (toJson (.cashuTokenLease lease)) = .ok (received (.cashuTokenLease lease)) := by
  have htag : getField lease.toFields "type" = .ok none := by
    simp [StreamingRouteCashuTokenLease.toFields]
  simp only [fromJson, toJson, untag_tagged htag, Except.ok_bind]
  simp [StreamingRouteCashuTokenLease.toFields, StreamingRouteCashuTokenLease.fromFields,
    received, pure, Except.pure, Except.ok_bind, -Except.bind_eq_ok]

theorem fromJson_toJson (self : StreamingRoutePaymentPayload) :
    fromJson self.toJson = .ok self.received := by
  cases self with
  | channelOpen openChannel => exact fromJson_channelOpen openChannel
  | balanceUpdate update => exact fromJson_balanceUpdate update
  | cooperativeClose close => exact fromJson_cooperativeClose close
  | cooperativeCloseAck ack => exact fromJson_cooperativeCloseAck ack
  | cashuTokenLease lease => exact fromJson_cashuTokenLease lease

theorem channelId_received (self : StreamingRoutePaymentPayload) :
    self.received.channelId = self.channelId := by
  cases self <;> rfl

def optionalValues : StreamingRoutePaymentPayload → List (Option Json)
  | .channelOpen openChannel => [openChannel.payment.params, openChannel.payment.fundingProofs]
  | .balanceUpdate update => [update.payment.params, update.payment.fundingProofs]
  | .cooperativeClose close => [close.payment.params, close.payment.fundingProofs]
  | .cooperativeCloseAck ack => [ack.receipt]
  | .cashuTokenLease _ => []

/-- A payload arrives as it was sent unless one of its values is an explicit `null`. -/
theorem received_eq_self_iff (self : StreamingRoutePaymentPayload) :
    self.received = self ↔ some .null ∉ self.optionalValues := by
  have hpayment : ∀ payment : CashuSpilmanPayment,
      payment.received = payment ↔ some .null ∉ [payment.params, payment.fundingProofs] := by
    intro payment
    obtain ⟨channelId, balance, signature, params, fundingProofs⟩ := payment
    simp [CashuSpilmanPayment.received, arriving_eq_self, eq_comm (a := some Json.null)]
  cases self with
  | channelOpen openChannel =>
    obtain ⟨mintUrl, unit, capacity, expiresUnix, receiver, paidMsat, payment⟩ := openChannel
    simpa [received, optionalValues] using hpayment payment
  | balanceUpdate update =>
    obtain ⟨deliveredUnits, amountDueMsat, paidMsat, payment⟩ := update
    simpa [received, optionalValues] using hpayment payment
  | cooperativeClose close =>
    obtain ⟨finalPaidMsat, payment⟩ := close
    simpa [received, optionalValues] using hpayment payment
  | cooperativeCloseAck ack =>
    obtain ⟨channelId, acceptedBalance, acceptedPaidMsat, closedAtUnix, receipt⟩ := ack
    simp [received, optionalValues, arriving_eq_self, eq_comm (a := some Json.null)]
  | cashuTokenLease lease => simp [received, optionalValues]

end StreamingRoutePaymentPayload

namespace StreamingRoutePaymentEnvelope

theorem fromJson_toJson (self : StreamingRoutePaymentEnvelope) :
    fromJson self.toJson = .ok self.received := by
  simp [fromJson, toJson, Json.asObject, StreamingRoutePaymentPayload.fromJson_toJson, received,
    pure, Except.pure, Except.ok_bind, -Except.bind_eq_ok]

/-- Every message can be decoded and names its channel, and it is the message that was sent
exactly when none of its optional values is an explicit `null`. -/
theorem survives_wire_iff (self : StreamingRoutePaymentEnvelope) :
    (fromJson self.toJson = .ok self ↔ some .null ∉ self.payload.optionalValues) ∧
      ∃ received, fromJson self.toJson = .ok received ∧ received.channelId = self.channelId := by
  have hsame : self.received = self ↔ self.payload.received = self.payload := by
    obtain ⟨version, serviceId, leaseId, buyer, seller, sentAtUnix, payload⟩ := self
    simp [received]
  rw [fromJson_toJson, Except.ok.injEq, hsame]
  exact ⟨self.payload.received_eq_self_iff, _, rfl, self.payload.channelId_received⟩

end StreamingRoutePaymentEnvelope

def samplePayment : CashuSpilmanPayment where
  channelId := "channel-1"
  balance := 5
  signature := "sig-5"
  params := some .null
  fundingProofs := some (.array [])

def sampleEnvelope : StreamingRoutePaymentEnvelope where
  version := streamingRoutePaymentProtocolVersion
  serviceId := "internet-exit"
  leaseId := "lease-1"
  buyer := "npub1buyer"
  seller := "npub1seller"
  sentAtUnix := 123
  payload := .cooperativeClose { finalPaidMsat := 5000, payment := samplePayment }

/-- The sender counts an explicit `null` as funding, and the receiver does not get to see it. -/
theorem null_lost_on_wire :
    (¬∀ envelope : StreamingRoutePaymentEnvelope,
      StreamingRoutePaymentEnvelope.fromJson envelope.toJson = .ok envelope) ∧
      samplePayment.hasFunding = true ∧
      ∃ received, CashuSpilmanPayment.fromJson samplePayment.toJson = .ok received ∧
        received.hasFunding = false := by
  refine ⟨?_, rfl, _, samplePayment.fromJson_toJson, rfl⟩
  intro h
  have hsample := h sampleEnvelope
  rw [StreamingRoutePaymentEnvelope.fromJson_toJson] at hsample
  have hpayload := congrArg StreamingRoutePaymentEnvelope.payload (Except.ok.inj hsample)
  have hnull := sampleEnvelope.payload.received_eq_self_iff.mp hpayload
  exact hnull List.mem_cons_self

end CashuService
