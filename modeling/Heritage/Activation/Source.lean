import Heritage.Activation.RateLimit
import Heritage.Text.Trim

/-!
# The source of an activation request

`source.ts` of activation.  The source is the entry of a configured header that
stands a configured number of places before its end.  What a client puts in
front of the entries the trusted proxies append has no influence on it.
-/

namespace Heritage.Activation.Source

open Heritage.Activation.RateLimit (ResolvedSource)
open Heritage.Text (trim)

structure SourceTrustConfig where
  trustedHeaderName : Option String
  trustedProxyHopCount : Option Int

/-- `get` of a request's headers. -/
abbrev HeadersLike := String → Option String

/-- The letters that `.` of a regular expression does not match. -/
def isLineTerminator (letter : Char) : Bool :=
  letter ∈ ['\n', '\r', '\u2028', '\u2029']

/-- `IPV6_ZONE_PATTERN` replaced by nothing: the text up to the first `%` with
no line terminator behind it. -/
def stripZone : List Char → List Char
  | [] => []
  | letter :: rest =>
      if letter = '%' ∧ ¬ rest.any isLineTerminator then
        []
      else
        letter :: stripZone rest

/-- `IPV4_MAPPED_IPV6_PATTERN`: the dotted address behind the prefix. -/
def ipv4MappedAddress (letters : List Char) : Option (List Char) :=
  let address := letters.drop 7
  let parts := address.splitOn '.'
  if (letters.take 7).map Char.toLower = "::ffff:".toList ∧
      parts.length = 4 ∧
      ∀ part ∈ parts, part ≠ [] ∧ part.all Char.isDigit then
    some address
  else
    none

/-- `toLowerCase` is the string method, whose tables belong to the language. -/
def normalizeSourceIdentifier (toLowerCase : String → String)
    (raw : String) : String :=
  let lowered := toLowerCase (trim raw)
  let withoutZone := stripZone lowered.toList
  String.ofList ((ipv4MappedAddress withoutZone).getD withoutZone)

/-- The entries of a header value that are not blank. -/
def headerParts (headerValue : String) : List String :=
  ((headerValue.toList.splitOn ',').map fun part =>
    trim (String.ofList part)).filter fun part => part ≠ ""

/-- The entry `hopCount` places before the last one. -/
def resolveParts (toLowerCase : String → String) (parts : List String)
    (hopCount : Int) : ResolvedSource :=
  let index : Int := parts.length - 1 - hopCount
  if index < 0 ∨ index ≥ parts.length then
    .untrusted
  else
    match parts[index.toNat]? with
    | some part => .trusted (normalizeSourceIdentifier toLowerCase part)
    -- The bounds above rule this out.
    | none => .untrusted

def resolveRequestSource (toLowerCase : String → String)
    (headers : HeadersLike) (trustConfig : SourceTrustConfig) :
    ResolvedSource :=
  match trustConfig.trustedHeaderName.filter fun name => name ≠ "" with
  | none => .untrusted
  | some trustedHeaderName =>
      match (headers trustedHeaderName).filter fun value => value ≠ "" with
      | none => .untrusted
      | some headerValue =>
          let parts := headerParts headerValue
          if parts.length = 0 then
            .untrusted
          else
            resolveParts toLowerCase parts
              (trustConfig.trustedProxyHopCount.getD 0)

variable {toLowerCase : String → String}

theorem headerParts_append (spoofed headerValue : String) :
    headerParts (spoofed ++ "," ++ headerValue) =
      headerParts spoofed ++ headerParts headerValue := by
  have letters :
      (spoofed ++ "," ++ headerValue).toList =
        spoofed.toList ++ ',' :: headerValue.toList := by
    simp
  have split :
      (spoofed.toList ++ ',' :: headerValue.toList).splitOn ',' =
        spoofed.toList.splitOn ',' ++ headerValue.toList.splitOn ',' :=
    List.splitOnP_append_cons _ _ (beq_self_eq_true ',')
  unfold headerParts
  rw [letters, split, List.map_append, List.filter_append]

/-- Entries in front do not matter when enough are left without them. -/
theorem resolveParts_append {spoofed parts : List String} {hopCount : Int}
    (enough : hopCount + 1 ≤ parts.length) :
    resolveParts toLowerCase (spoofed ++ parts) hopCount =
      resolveParts toLowerCase parts hopCount := by
  unfold resolveParts
  simp only [List.length_append, Nat.cast_add]
  by_cases outside : (parts.length : Int) - 1 - hopCount ≥ parts.length
  · have outsideBoth :
        (spoofed.length : Int) + parts.length - 1 - hopCount ≥
          spoofed.length + parts.length := by
      omega
    rw [if_pos (Or.inr outside), if_pos (Or.inr outsideBoth)]
  · have inside :
        ¬ ((parts.length : Int) - 1 - hopCount < 0 ∨
          (parts.length : Int) - 1 - hopCount ≥ parts.length) := by
      omega
    have insideBoth :
        ¬ ((spoofed.length : Int) + parts.length - 1 - hopCount < 0 ∨
          (spoofed.length : Int) + parts.length - 1 - hopCount ≥
            spoofed.length + parts.length) := by
      omega
    have shifted :
        ((spoofed.length : Int) + parts.length - 1 - hopCount).toNat =
          spoofed.length + ((parts.length : Int) - 1 - hopCount).toNat := by
      omega
    rw [if_neg inside, if_neg insideBoth, shifted,
      List.getElem?_append_right (Nat.le_add_right _ _),
      Nat.add_sub_cancel_left]

theorem resolveParts_of_few {parts : List String} {hopCount : Int}
    (few : (parts.length : Int) < hopCount + 1) :
    resolveParts toLowerCase parts hopCount = .untrusted := by
  unfold resolveParts
  apply if_pos
  left
  omega

/-- Under a configured header the source is that of its entries. -/
theorem resolveRequestSource_of_value {headers : HeadersLike}
    {trustConfig : SourceTrustConfig} {name headerValue : String}
    (configured : trustConfig.trustedHeaderName = some name)
    (named : name ≠ "") (present : headers name = some headerValue) :
    resolveRequestSource toLowerCase headers trustConfig =
      if (headerParts headerValue).length = 0 then
        .untrusted
      else
        resolveParts toLowerCase (headerParts headerValue)
          (trustConfig.trustedProxyHopCount.getD 0) := by
  have isNamed :
      (some name).filter (fun name => decide (name ≠ "")) = some name :=
    Option.filter_some_pos (decide_eq_true named)
  rw [resolveRequestSource, configured, isNamed]
  dsimp only
  rw [present]
  by_cases blank : headerValue = ""
  · subst blank
    rfl
  · have isPresent :
        (some headerValue).filter (fun value => decide (value ≠ "")) =
          some headerValue :=
      Option.filter_some_pos (decide_eq_true blank)
    rw [isPresent]

/-- Whose entry the source of a request is. -/
structure SourceFromTheEnd (toLowerCase : String → String)
    (trustConfig : SourceTrustConfig) : Prop where
  /-- With enough entries of its own, a header value resolves alike behind any
  other text and a comma. -/
  prefixIgnored :
    ∀ (name : String) (headers spoofed : HeadersLike)
      (headerValue inFront : String),
      trustConfig.trustedHeaderName = some name → name ≠ "" →
      headers name = some headerValue →
      spoofed name = some (inFront ++ "," ++ headerValue) →
      trustConfig.trustedProxyHopCount.getD 0 + 1 ≤
        (headerParts headerValue).length →
        resolveRequestSource toLowerCase spoofed trustConfig =
          resolveRequestSource toLowerCase headers trustConfig
  tooFew :
    ∀ (name : String) (headers : HeadersLike) (headerValue : String),
      trustConfig.trustedHeaderName = some name →
      headers name = some headerValue →
      (headerParts headerValue).length <
        trustConfig.trustedProxyHopCount.getD 0 + 1 →
        resolveRequestSource toLowerCase headers trustConfig = .untrusted
  absent :
    ∀ (name : String) (headers : HeadersLike),
      trustConfig.trustedHeaderName = some name → headers name = none →
        resolveRequestSource toLowerCase headers trustConfig = .untrusted
  unconfigured :
    trustConfig.trustedHeaderName = none ∨
        trustConfig.trustedHeaderName = some "" →
      ∀ headers : HeadersLike,
        resolveRequestSource toLowerCase headers trustConfig = .untrusted

theorem source_from_the_end (toLowerCase : String → String)
    (trustConfig : SourceTrustConfig) :
    SourceFromTheEnd toLowerCase trustConfig where
  prefixIgnored := by
    intro name headers spoofed headerValue inFront configured named present
      presentSpoofed enough
    rw [resolveRequestSource_of_value configured named present,
      resolveRequestSource_of_value configured named presentSpoofed,
      headerParts_append, resolveParts_append enough]
    by_cases own : (headerParts headerValue).length = 0
    · -- Without entries the hop count is negative, and nothing is trusted.
      have negative :
          ∀ parts : List String,
            resolveParts toLowerCase (parts ++ headerParts headerValue)
                (trustConfig.trustedProxyHopCount.getD 0) =
              .untrusted := by
        intro parts
        rw [resolveParts_append enough, resolveParts]
        apply if_pos
        right
        omega
      have untrusted := negative []
      rw [List.nil_append] at untrusted
      rw [untrusted, ite_self, ite_self]
    · have both :
          (headerParts inFront ++ headerParts headerValue).length ≠ 0 := by
        rw [List.length_append]
        omega
      rw [if_neg own, if_neg both]
  tooFew := by
    intro name headers headerValue configured present few
    by_cases named : name = ""
    · rw [resolveRequestSource, configured, named]
      rfl
    · rw [resolveRequestSource_of_value configured named present,
        resolveParts_of_few few, ite_self]
  absent := by
    intro name headers configured missing
    by_cases named : name = ""
    · rw [resolveRequestSource, configured, named]
      rfl
    · have isNamed :
          (some name).filter (fun name => decide (name ≠ "")) = some name :=
        Option.filter_some_pos (decide_eq_true named)
      rw [resolveRequestSource, configured, isNamed]
      dsimp only
      rw [missing]
      rfl
  unconfigured := by
    rintro (missing | blank) headers
    · rw [resolveRequestSource, missing]
      rfl
    · rw [resolveRequestSource, blank]
      rfl

end Heritage.Activation.Source
