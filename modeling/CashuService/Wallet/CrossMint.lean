import CashuService.Base.Fallible
set_option autoImplicit false

namespace CashuService

/-! `wallet.rs` and `wallet/cross_mint/mod.rs`: a request to move balance between two mints, and
the form it is brought into before anything is looked up or saved. -/

/-- An `anyhow::Error`: its messages, from the outermost context to the root cause. -/
abbrev Anyhow := List String

def withContext {α : Type} (text : String) (result : Except Anyhow α) : Except Anyhow α :=
  result.mapError fun chain => text :: chain

/-- What the code uses of the crate `url`. -/
structure UrlCrate where
  Url : Type
  parse : String → Except Anyhow Url
  scheme : Url → String
  query : Url → Option String
  fragment : Url → Option String
  path : Url → String
  setPath : Url → String → Url
  toString : Url → String

def trimEndMatches (c : Char) (s : String) : String :=
  String.ofList (s.toList.reverse.dropWhile (· == c)).reverse

structure CashuCrossMintTransferRequest where
  transferId : String
  sourceMintUrl : String
  destinationMintUrl : String
  amountSat : UInt64
  maxFeeSat : UInt64
  deriving DecidableEq, Repr

/-- `byte.is_ascii_alphanumeric() || matches!(byte, b'-' | b'_')`. -/
def isTransferIdByte (byte : UInt8) : Bool :=
  (48 ≤ byte && byte ≤ 57) || (65 ≤ byte && byte ≤ 90) || (97 ≤ byte && byte ≤ 122) ||
    byte == 45 || byte == 95

variable (url : UrlCrate)

def normalizeMintUrl (raw : String) : Except Anyhow String := do
  let parsed ← withContext s!"Invalid mint URL: {raw}" (url.parse raw)
  rejectIf (url.scheme parsed ≠ "http" ∧ url.scheme parsed ≠ "https")
    [s!"Unsupported mint URL scheme: {url.scheme parsed}"]
  rejectIf ((url.query parsed).isSome ∨ (url.fragment parsed).isSome)
    ["Mint URL must not include query or fragment"]
  let trimmedPath := trimEndMatches '/' (url.path parsed)
  let parsed := if trimmedPath = "" then url.setPath parsed "" else url.setPath parsed trimmedPath
  return trimEndMatches '/' (url.toString parsed)

def normalizeCrossMintTransferRequest (request : CashuCrossMintTransferRequest) :
    Except Anyhow CashuCrossMintTransferRequest := do
  let request := { request with transferId := trim request.transferId }
  rejectIf (request.transferId = "" ∨ 128 < request.transferId.utf8ByteSize ∨
      ¬(bytes request.transferId).all isTransferIdByte)
    ["Cashu cross-mint transfer id must be 1-128 ASCII letters, digits, '-' or '_'"]
  rejectIf (request.amountSat = 0) ["Cashu cross-mint transfer amount must be greater than zero"]
  let _ ← okOr (request.amountSat.checkedMul 1000)
    ["Cashu cross-mint transfer amount is too large"]
  let sourceMintUrl ← normalizeMintUrl url request.sourceMintUrl
  let destinationMintUrl ← normalizeMintUrl url request.destinationMintUrl
  let request := {
    request with sourceMintUrl := sourceMintUrl, destinationMintUrl := destinationMintUrl }
  rejectIf (request.sourceMintUrl = request.destinationMintUrl)
    ["Cashu cross-mint transfer requires two different mints"]
  return request

variable {url}

theorem exists_checkedMul_thousand {amount : UInt64} :
    (∃ msat, amount.checkedMul 1000 = some msat) ↔ amount.toNat * 1000 < 2 ^ 64 := by
  have hthousand : (1000 : UInt64).toNat = 1000 := rfl
  unfold UInt64.checkedMul
  split <;> simp_all

theorem normalizeCrossMintTransferRequest_eq_ok
    {request canonical : CashuCrossMintTransferRequest} :
    normalizeCrossMintTransferRequest url request = .ok canonical ↔
      trim request.transferId ≠ "" ∧ (trim request.transferId).utf8ByteSize ≤ 128 ∧
      (bytes (trim request.transferId)).all isTransferIdByte ∧ request.amountSat ≠ 0 ∧
      request.amountSat.toNat * 1000 < 2 ^ 64 ∧
      ∃ source destination, normalizeMintUrl url request.sourceMintUrl = .ok source ∧
        normalizeMintUrl url request.destinationMintUrl = .ok destination ∧
        source ≠ destination ∧
        canonical = {
          transferId := trim request.transferId, sourceMintUrl := source,
          destinationMintUrl := destination, amountSat := request.amountSat,
          maxFeeSat := request.maxFeeSat } := by
  simp only [normalizeCrossMintTransferRequest, Except.bind_eq_ok]
  simp only [rejectIf_eq_ok, okOr_eq_ok, exists_const, Except.pure_eq_ok]
  simp only [← exists_checkedMul_thousand, not_or, not_not, not_lt]
  constructor
  · intro h
    obtain ⟨⟨hid, hlen, hbytes⟩, hzero, msat, hmsat, source, hs, destination, hd, hne, rfl⟩ := h
    exact ⟨hid, hlen, hbytes, hzero, ⟨msat, hmsat⟩, source, destination, hs, hd, hne, rfl⟩
  · intro h
    obtain ⟨hid, hlen, hbytes, hzero, ⟨msat, hmsat⟩, source, destination, hs, hd, hne, rfl⟩ := h
    exact ⟨⟨hid, hlen, hbytes⟩, hzero, msat, hmsat, source, hs, destination, hd, hne, rfl⟩

end CashuService
