import CashuService.Credit.Protocol
import CashuService.Wallet.Transfer
set_option autoImplicit false

namespace CashuService

/-! `credit_settlement.rs`: an authorized external settlement is bound to one transfer between
two mints. -/

structure CashuIssuerRoute where
  issuer : String
  sourceMintUrl : String
  deriving DecidableEq, Repr

section

variable (url : UrlCrate)

def bindCashuSettlement (authorization : ExternalSettlementAuthorization)
    (route : CashuIssuerRoute) : Except Anyhow CashuCrossMintTransferRequest := do
  rejectIf (route.issuer ≠ authorization.issuer)
    ["Cashu settlement route does not match the authorized issuer"]
  rejectIf (trim authorization.settlementId ≠ authorization.settlementId ∨
      authorization.settlementId = "" ∨ isBlank authorization.issuer ∨
      isBlank authorization.counterparty)
    ["Cashu settlement authorization identity is not canonical"]
  rejectIf (authorization.amountSat = 0) ["Cashu settlement amount must be greater than zero"]
  let reservedSat ← okOr (authorization.amountSat.checkedAdd authorization.maxFeeSat)
    ["Cashu settlement reserve overflow"]
  rejectIf (authorization.reservedSat ≠ reservedSat)
    ["Cashu settlement authorization has an invalid reserve"]
  rejectIf (authorization.authorizedAtUnix ≥ authorization.expiresAtUnix)
    ["Cashu settlement authorization has an invalid deadline"]
  let sourceMintUrl ← withContext "Cashu settlement source mint is invalid"
    (normalizeMintUrl url route.sourceMintUrl)
  let destinationMintUrl ← withContext "Cashu settlement destination mint is invalid"
    (normalizeMintUrl url authorization.payoutDestination)
  rejectIf (destinationMintUrl ≠ authorization.payoutDestination)
    ["Cashu settlement destination mint must be canonical"]
  return {
    transferId := authorization.settlementId
    sourceMintUrl := sourceMintUrl
    destinationMintUrl := destinationMintUrl
    amountSat := authorization.amountSat
    maxFeeSat := authorization.maxFeeSat }

def prepareCashuSettlement (authorization : ExternalSettlementAuthorization)
    (route : CashuIssuerRoute) (nowUnix : UInt64) :
    Except Anyhow CashuCrossMintTransferRequest := do
  let request ← bindCashuSettlement url authorization route
  rejectIf (authorization.expiresAtUnix ≤ nowUnix)
    ["Cashu settlement authorization has expired"]
  return request

/-- After the deadline a payment that has begun can be finished, but none can be started. -/
def executeCashuSettlement (crates : TransferCrates)
    (authorization : ExternalSettlementAuthorization) (route : CashuIssuerRoute)
    (nowUnix : UInt64) : TransferM CashuCrossMintTransfer := do
  let request ← fallible (bindCashuSettlement crates.url authorization route)
  let transfer ← (
    if authorization.expiresAtUnix ≤ nowUnix then resumeTransferBetweenMints crates request
    else transferBetweenMints crates request)
  bailIf (transfer.transferId ≠ request.transferId ∨
      transfer.sourceMintUrl ≠ request.sourceMintUrl ∨
      transfer.destinationMintUrl ≠ request.destinationMintUrl ∨
      transfer.amountSat ≠ request.amountSat ∨ transfer.maxFeeSat ≠ request.maxFeeSat ∨
      transfer.feePaidSat > request.maxFeeSat ∨ transfer.unit ≠ "sat")
    "CDK transfer result does not match the Cashu settlement authorization"
  return transfer

/-- What a bound settlement still has to meet for the transfer layer to accept it: the id is
one of its own ids, the amount fits in millisatoshis, and there are two mints. -/
structure Transferable (authorization : ExternalSettlementAuthorization)
    (route : CashuIssuerRoute) : Prop where
  short : authorization.settlementId.utf8ByteSize ≤ 128
  plain : (bytes authorization.settlementId).all isTransferIdByte
  fits : authorization.amountSat.toNat * 1000 < 2 ^ 64
  twoMints : normalizeMintUrl url route.sourceMintUrl ≠ .ok authorization.payoutDestination

end

section

variable {url : UrlCrate} {authorization : ExternalSettlementAuthorization}
  {route : CashuIssuerRoute} {request canonical : CashuCrossMintTransferRequest}

theorem withContext_eq_ok {α : Type} {text : String} {result : Except Anyhow α} {a : α} :
    withContext text result = .ok a ↔ result = .ok a := Except.mapError_eq_ok

theorem eq_of_bindCashuSettlement (h : bindCashuSettlement url authorization route = .ok request) :
    trim authorization.settlementId = authorization.settlementId ∧
      authorization.settlementId ≠ "" ∧ authorization.amountSat ≠ 0 ∧
      normalizeMintUrl url authorization.payoutDestination =
        .ok authorization.payoutDestination ∧
      ∃ source, normalizeMintUrl url route.sourceMintUrl = .ok source ∧
        request = {
          transferId := authorization.settlementId, sourceMintUrl := source,
          destinationMintUrl := authorization.payoutDestination,
          amountSat := authorization.amountSat, maxFeeSat := authorization.maxFeeSat } := by
  simp only [bindCashuSettlement, Except.bind_eq_ok] at h
  simp only [rejectIf_eq_ok, okOr_eq_ok, exists_const, Except.pure_eq_ok, withContext_eq_ok] at h
  simp only [not_or, ne_eq, not_not] at h
  obtain ⟨-, ⟨htrim, hid, -, -⟩, hzero, -, -, -, -, source, hs, destination, hd, rfl, rfl⟩ := h
  exact ⟨htrim, hid, hzero, hd, source, hs, rfl⟩

theorem bind_of_prepareCashuSettlement {nowUnix : UInt64}
    (h : prepareCashuSettlement url authorization route nowUnix = .ok request) :
    bindCashuSettlement url authorization route = .ok request := by
  simp only [prepareCashuSettlement, Except.bind_eq_ok] at h
  obtain ⟨bound, hbound, -, -, heq⟩ := h
  rw [hbound, ← Except.pure_eq_ok.mp heq]

theorem eq_of_normalize_bound
    (hstable : ∀ raw mint, normalizeMintUrl url raw = .ok mint →
      normalizeMintUrl url mint = .ok mint)
    (h : bindCashuSettlement url authorization route = .ok request)
    (hn : normalizeCrossMintTransferRequest url request = .ok canonical) : canonical = request := by
  obtain ⟨htrim, -, -, hd, source, hs, rfl⟩ := eq_of_bindCashuSettlement h
  obtain ⟨-, -, -, -, -, source', destination', hs', hd', -, rfl⟩ :=
    normalizeCrossMintTransferRequest_eq_ok.mp hn
  have hsource : source = source' := by simpa [hstable _ _ hs] using hs'
  have hdestination : authorization.payoutDestination = destination' := by simpa [hd] using hd'
  simp [htrim, hsource, hdestination]

theorem normalize_bound_iff
    (hstable : ∀ raw mint, normalizeMintUrl url raw = .ok mint →
      normalizeMintUrl url mint = .ok mint)
    (h : bindCashuSettlement url authorization route = .ok request) :
    (∃ canonical, normalizeCrossMintTransferRequest url request = .ok canonical) ↔
      Transferable url authorization route := by
  obtain ⟨htrim, hid, hzero, hd, source, hs, rfl⟩ := eq_of_bindCashuSettlement h
  simp only [normalizeCrossMintTransferRequest_eq_ok, htrim]
  constructor
  · intro hn
    obtain ⟨canonical, -, hlen, hbytes, -, hfits, source', destination', hs', hd', hne, -⟩ := hn
    have hsource : source = source' := by simpa [hstable _ _ hs] using hs'
    have hdestination : authorization.payoutDestination = destination' := by simpa [hd] using hd'
    exact ⟨hlen, hbytes, hfits, by simpa [hs, hsource, hdestination] using hne⟩
  · intro ht
    have hne : source ≠ authorization.payoutDestination := by simpa [hs] using ht.twoMints
    exact ⟨_, hid, ht.short, ht.plain, hzero, ht.fits, source, _, hstable _ _ hs, hd, hne, rfl⟩

end

inductive SampleUrl where
  | source | destination

def sampleUrlCrate : UrlCrate where
  Url := SampleUrl
  parse := fun raw =>
    if raw = "https://source.example" ∨ raw = "https://source.example/" then .ok .source
    else if raw = "https://destination.example" ∨ raw = "https://destination.example/" then
      .ok .destination
    else .error ["relative URL without a base"]
  scheme := fun _ => "https"
  query := fun _ => none
  fragment := fun _ => none
  path := fun _ => "/"
  setPath := fun u _ => u
  toString := fun
    | .source => "https://source.example/"
    | .destination => "https://destination.example/"

theorem sampleUrlCrate_stable (raw mint : String)
    (h : normalizeMintUrl sampleUrlCrate raw = .ok mint) :
    normalizeMintUrl sampleUrlCrate mint = .ok mint := by
  have hmint : mint = "https://source.example" ∨ mint = "https://destination.example" := by
    simp only [normalizeMintUrl, Except.bind_eq_ok, withContext_eq_ok] at h
    obtain ⟨parsed, -, -, -, -, -, h⟩ := h
    cases parsed with
    | source => exact .inl (Except.pure_eq_ok.mp h).symm
    | destination => exact .inr (Except.pure_eq_ok.mp h).symm
  cases hmint with
  | inl hmint => subst hmint; decide +kernel
  | inr hmint => subst hmint; decide +kernel

def sampleSettlement (settlementId : String) : ExternalSettlementAuthorization where
  settlementId := settlementId
  issuer := "alice"
  counterparty := "bob"
  payoutDestination := "https://destination.example"
  amountSat := 21
  maxFeeSat := 2
  reservedSat := 23
  authorizedAtUnix := 100
  expiresAtUnix := 200

def sampleRoute : CashuIssuerRoute := ⟨"alice", "https://source.example/"⟩

def sampleTransfer (transferId : String) : CashuCrossMintTransferRequest where
  transferId := transferId
  sourceMintUrl := "https://source.example"
  destinationMintUrl := "https://destination.example"
  amountSat := 21
  maxFeeSat := 2

section

variable {url : UrlCrate} {authorization : ExternalSettlementAuthorization}
  {route : CashuIssuerRoute} {request : CashuCrossMintTransferRequest}

/-- A prepared settlement is executable as prepared exactly when the transfer layer knows its id,
its amount and its two mints, and nothing is rewritten on the way. -/
theorem prepared_executable_iff
    (hstable : ∀ raw mint, normalizeMintUrl url raw = .ok mint →
      normalizeMintUrl url mint = .ok mint)
    {nowUnix : UInt64}
    (h : prepareCashuSettlement url authorization route nowUnix = .ok request) :
    (normalizeCrossMintTransferRequest url request = .ok request ↔
        Transferable url authorization route) ∧
      ∀ canonical, normalizeCrossMintTransferRequest url request = .ok canonical →
        canonical = request := by
  have hbound := bind_of_prepareCashuSettlement h
  refine ⟨?_, fun canonical hn => eq_of_normalize_bound hstable hbound hn⟩
  rw [← normalize_bound_iff hstable hbound]
  constructor
  · intro hn
    exact ⟨request, hn⟩
  · intro hn
    obtain ⟨canonical, hn⟩ := hn
    rwa [eq_of_normalize_bound hstable hbound hn] at hn

end

theorem prepared_not_executable :
    ¬∀ (url : UrlCrate) (authorization : ExternalSettlementAuthorization)
      (route : CashuIssuerRoute) (nowUnix : UInt64) (request : CashuCrossMintTransferRequest),
      (∀ raw mint, normalizeMintUrl url raw = .ok mint → normalizeMintUrl url mint = .ok mint) →
      prepareCashuSettlement url authorization route nowUnix = .ok request →
      normalizeCrossMintTransferRequest url request = .ok request := by
  intro h
  have hprepared : prepareCashuSettlement sampleUrlCrate (sampleSettlement "settlement:1")
      sampleRoute 150 = .ok (sampleTransfer "settlement:1") := by decide +kernel
  have hrefused : normalizeCrossMintTransferRequest sampleUrlCrate (sampleTransfer "settlement:1") ≠
      .ok (sampleTransfer "settlement:1") := by decide +kernel
  exact hrefused (h _ _ _ _ _ sampleUrlCrate_stable hprepared)

theorem prepared_executable_sample :
    prepareCashuSettlement sampleUrlCrate (sampleSettlement "settlement-1") sampleRoute 150 =
        .ok (sampleTransfer "settlement-1") ∧
      (normalizeCrossMintTransferRequest sampleUrlCrate (sampleTransfer "settlement-1") =
          .ok (sampleTransfer "settlement-1") ↔
        Transferable sampleUrlCrate (sampleSettlement "settlement-1") sampleRoute) ∧
      ∀ canonical, normalizeCrossMintTransferRequest sampleUrlCrate
        (sampleTransfer "settlement-1") = .ok canonical → canonical = sampleTransfer "settlement-1" :=
  have hprepared : prepareCashuSettlement sampleUrlCrate (sampleSettlement "settlement-1")
      sampleRoute 150 = .ok (sampleTransfer "settlement-1") := by decide +kernel
  ⟨hprepared, prepared_executable_iff sampleUrlCrate_stable hprepared⟩

end CashuService
