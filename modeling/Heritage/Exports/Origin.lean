import Heritage.Text.Decimal
import Heritage.Text.Runs

/-!
# The origin an export request comes from

`export-http.ts` of payments.  The endpoint compares the `Origin` header with
the origin of the configured base URL by a grammar of its own.  It accepts no
other origin, but a host the grammar does not know is refused its own.
-/

namespace Heritage.Exports.Origin

open Heritage.Text

/-- The port a scheme stands for, by the URL standard. -/
def standardPort (scheme : String) : Option Nat :=
  if scheme = "http" ∨ scheme = "ws" then
    some 80
  else if scheme = "https" ∨ scheme = "wss" then
    some 443
  else if scheme = "ftp" then
    some 21
  else
    none

/-- A parsed URL.  Its port is absent when it is the one of the scheme. -/
structure ParsedUrl where
  scheme : String
  hostname : String
  port : Option Nat
  portBound : ∀ value ∈ port, value ≤ 65535
  notStandard : port = none ∨ port ≠ standardPort scheme

namespace ParsedUrl

def protocol (url : ParsedUrl) : String :=
  url.scheme ++ ":"

/-- The `port` getter. -/
def portText (url : ParsedUrl) : String :=
  match url.port with
  | none => ""
  | some value => Nat.repr value

/-- The origin of the URL as a browser sends it. -/
def serializedOrigin (url : ParsedUrl) : String :=
  url.scheme ++ "://" ++ url.hostname ++
    match url.port with
    | none => ""
    | some value => ":" ++ Nat.repr value

end ParsedUrl

inductive Scheme where
  | http
  | https
  deriving DecidableEq, Repr

namespace Scheme

def text : Scheme → String
  | .http => "http"
  | .https => "https"

end Scheme

structure TrustedOrigin where
  scheme : Scheme
  hostname : String
  port : Nat
  deriving DecidableEq, Repr

def defaultPorts : Scheme → Nat
  | .http => 80
  | .https => 443

/-- `Number` of a text of digits. -/
def numberOf (digits : List Char) : Nat :=
  Nat.ofDigitChars 10 digits 0

def schemeMessage : String :=
  "The configured application base URL must use http or https."

/-- `parse` is the `URL` constructor of the platform. -/
def trustedOriginFrom (parse : String → Option ParsedUrl)
    (configuredBaseUrl : String) : Except String TrustedOrigin :=
  match parse configuredBaseUrl with
  | none => .error "Invalid URL"
  | some url =>
      if url.protocol ≠ "http:" ∧ url.protocol ≠ "https:" then
        .error schemeMessage
      else
        let scheme := if url.protocol = "https:" then .https else .http
        .ok
          { scheme := scheme
            hostname := url.hostname
            port :=
              if url.portText = "" then
                defaultPorts scheme
              else
                numberOf url.portText.toList }

/-- `[a-z0-9]` -/
def isLetterOrDigit (letter : Char) : Bool :=
  letter.isLower || letter.isDigit

/-- `[a-z0-9](?:[a-z0-9-]*[a-z0-9])?` -/
def isLabel (label : List Char) : Bool :=
  label.all (fun letter => isLetterOrDigit letter || letter = '-') &&
    label.head?.any isLetterOrDigit && label.getLast?.any isLetterOrDigit

/-- A letter of labels and of the dots between them. -/
def isLabelsLetter (letter : Char) : Bool :=
  isLetterOrDigit letter || letter = '-' || letter = '.'

def isLabels (letters : List Char) : Bool :=
  (letters.splitOn '.').all isLabel

/-- `[0-9a-f:.]` -/
def isLiteralLetter (letter : Char) : Bool :=
  letter.isDigit || ('a' ≤ letter && letter ≤ 'f') || letter = ':' ||
    letter = '.'

/-- `[1-9][0-9]{0,4}` -/
def isPort (digits : List Char) : Bool :=
  digits.all Char.isDigit && digits.head?.any (fun digit => digit ≠ '0') &&
    digits.length ≤ 5

def matchScheme (letters : List Char) : Option (Scheme × List Char) :=
  if "https://".toList <+: letters then
    some (.https, letters.drop 8)
  else if "http://".toList <+: letters then
    some (.http, letters.drop 7)
  else
    none

/-- The host and the letters behind it.  Only a colon or the end may follow, so
a host goes as far as its letters do. -/
def matchHostname (letters : List Char) : Option (List Char × List Char) :=
  if letters.head? = some '[' then
    let literal := letters.tail.takeWhile isLiteralLetter
    let behind := letters.tail.dropWhile isLiteralLetter
    if literal ≠ [] ∧ behind.head? = some ']' then
      some ('[' :: literal ++ [']'], behind.tail)
    else
      none
  else
    let host := letters.takeWhile isLabelsLetter
    if isLabels host then
      some (host, letters.dropWhile isLabelsLetter)
    else
      none

def matchPort : List Char → Option (Option (List Char))
  | [] => some none
  | colon :: digits =>
      if colon = ':' ∧ isPort digits then
        some (some digits)
      else
        none

/-- The three groups of `ORIGIN_PATTERN`. -/
structure OriginMatch where
  scheme : Scheme
  hostname : List Char
  port : Option (List Char)
  deriving DecidableEq, Repr

def execOriginPattern (letters : List Char) : Option OriginMatch := do
  let (scheme, behindScheme) ← matchScheme letters
  let (hostname, behindHostname) ← matchHostname behindScheme
  let port ← matchPort behindHostname
  pure ⟨scheme, hostname, port⟩

/-- The port a matched header names. -/
def OriginMatch.portNumber (found : OriginMatch) : Nat :=
  match found.port with
  | none => defaultPorts found.scheme
  | some digits => numberOf digits

def isTrustedOrigin (header : Option String) (trusted : TrustedOrigin) :
    Bool :=
  match header with
  | none => false
  | some header =>
      match execOriginPattern header.toList with
      | none => false
      | some found =>
          if found.portNumber > 65535 then
            false
          else
            found.scheme = trusted.scheme &&
              String.ofList found.hostname = trusted.hostname &&
              found.portNumber = trusted.port

def IsKnownHost (hostname : List Char) : Prop :=
  isLabels hostname ∨
    ∃ literal, literal ≠ [] ∧ (∀ letter ∈ literal, isLiteralLetter letter) ∧
      hostname = '[' :: literal ++ [']']

variable {letters hostname behind digits : List Char}

theorem labelsLetter_of_isLabel {label : List Char} (known : isLabel label) :
    ∀ letter ∈ label, isLabelsLetter letter := by
  intro letter member
  have each : isLetterOrDigit letter || letter = '-' := by
    simp only [isLabel, Bool.and_eq_true, List.all_eq_true] at known
    exact known.1.1 letter member
  unfold isLabelsLetter
  rw [each]
  rfl

theorem labelsLetter_of_isLabels (known : isLabels letters) :
    ∀ letter ∈ letters, isLabelsLetter letter := by
  intro letter member
  by_cases isDot : letter = '.'
  · rw [isDot]
    decide
  · obtain ⟨label, labelMember, inLabel⟩ := mem_splitOn member isDot
    exact labelsLetter_of_isLabel (List.all_eq_true.mp known _ labelMember)
      letter inLabel

theorem isLabels_ne_nil (known : isLabels letters) : letters ≠ [] := by
  rintro rfl
  revert known
  decide

theorem head_ne_bracket (known : isLabels letters) :
    (letters ++ behind).head? ≠ some '[' := by
  rw [List.head?_append_of_ne_nil _ (isLabels_ne_nil known)]
  intro bracket
  have isLetter :=
    labelsLetter_of_isLabels known '[' (List.mem_of_head? bracket)
  revert isLetter
  decide

/-- A host the grammar knows is matched in front of a port or the end. -/
theorem matchHostname_append (known : IsKnownHost hostname)
    (boundary : ∀ letter ∈ behind.head?, letter = ':') :
    matchHostname (hostname ++ behind) = some (hostname, behind) := by
  unfold matchHostname
  rcases known with labels | ⟨literal, nonempty, areLetters, rfl⟩
  · have stop : ∀ letter ∈ behind.head?, ¬ isLabelsLetter letter := by
      intro letter atHead
      rw [boundary letter atHead]
      decide
    have isLetter := labelsLetter_of_isLabels labels
    rw [if_neg (head_ne_bracket labels), takeWhile_append_of_head isLetter stop,
      dropWhile_append_of_head isLetter stop]
    exact if_pos labels
  · have stop :
        ∀ letter ∈ (']' :: behind).head?, ¬ isLiteralLetter letter := by
      rintro letter ⟨rfl⟩
      decide
    have whole :
        '[' :: literal ++ [']'] ++ behind =
          '[' :: (literal ++ ']' :: behind) := by
      simp
    rw [whole, if_pos List.head?_cons, List.tail_cons,
      takeWhile_append_of_head areLetters stop,
      dropWhile_append_of_head areLetters stop]
    exact if_pos ⟨nonempty, List.head?_cons⟩

theorem matchHostname_eq_some
    (found : matchHostname letters = some (hostname, behind)) :
    letters = hostname ++ behind ∧ IsKnownHost hostname := by
  unfold matchHostname at found
  dsimp only at found
  by_cases bracket : letters.head? = some '['
  · rw [if_pos bracket] at found
    obtain ⟨⟨nonempty, closed⟩, same⟩ := Option.ite_none_right_eq_some.mp found
    obtain ⟨rfl, rfl⟩ := Prod.mk.inj (Option.some.inj same)
    refine ⟨?_, Or.inr ⟨_, nonempty, fun letter => List.mem_takeWhile_imp, rfl⟩⟩
    have opened := List.cons_head?_tail bracket
    have rest := List.cons_head?_tail closed
    calc
      letters = '[' :: letters.tail := opened.symm
      _ = '[' :: (letters.tail.takeWhile isLiteralLetter ++
            letters.tail.dropWhile isLiteralLetter) := by
          rw [List.takeWhile_append_dropWhile]
      _ = '[' :: letters.tail.takeWhile isLiteralLetter ++ [']'] ++
            (letters.tail.dropWhile isLiteralLetter).tail := by
          rw [← rest]
          simp
  · rw [if_neg bracket] at found
    obtain ⟨labels, same⟩ := Option.ite_none_right_eq_some.mp found
    obtain ⟨rfl, rfl⟩ := Prod.mk.inj (Option.some.inj same)
    exact ⟨List.takeWhile_append_dropWhile.symm, Or.inl labels⟩

theorem matchScheme_eq_some_iff {scheme : Scheme} :
    matchScheme letters = some (scheme, behind) ↔
      letters = scheme.text.toList ++ "://".toList ++ behind := by
  unfold matchScheme
  constructor
  · intro found
    by_cases secure : "https://".toList <+: letters
    · rw [if_pos secure] at found
      obtain ⟨rfl, rfl⟩ := Prod.mk.inj (Option.some.inj found)
      obtain ⟨rest, rfl⟩ := secure
      rfl
    · rw [if_neg secure] at found
      obtain ⟨plain, same⟩ := Option.ite_none_right_eq_some.mp found
      obtain ⟨rfl, rfl⟩ := Prod.mk.inj (Option.some.inj same)
      obtain ⟨rest, rfl⟩ := plain
      rfl
  · rintro rfl
    cases scheme with
    | http =>
        have notSecure :
            ¬ "https://".toList <+: Scheme.http.text.toList ++
              "://".toList ++ behind := by
          simp [Scheme.text]
        rw [if_neg notSecure]
        exact if_pos (List.prefix_append "http://".toList behind)
    | https =>
        exact if_pos (List.prefix_append "https://".toList behind)

/-- The port group with its colon. -/
def portLetters : Option (List Char) → List Char
  | none => []
  | some digits => ':' :: digits

theorem head_portLetters (port : Option (List Char)) :
    ∀ letter ∈ (portLetters port).head?, letter = ':' := by
  intro letter atHead
  cases port with
  | none =>
      exact absurd atHead (Option.not_mem_none letter)
  | some digits =>
      exact (Option.some.inj atHead).symm

theorem matchPort_eq_some_iff {port : Option (List Char)} :
    matchPort letters = some port ↔
      letters = portLetters port ∧ ∀ digits ∈ port, isPort digits := by
  constructor
  · intro found
    cases letters with
    | nil =>
        obtain rfl : none = port := Option.some.inj found
        exact ⟨rfl, fun digits present =>
          absurd present (Option.not_mem_none digits)⟩
    | cons colon digits =>
        obtain ⟨⟨rfl, wellFormed⟩, same⟩ :=
          Option.ite_none_right_eq_some.mp found
        obtain rfl : some digits = port := Option.some.inj same
        refine ⟨rfl, ?_⟩
        rintro _ ⟨rfl⟩
        exact wellFormed
  · rintro ⟨rfl, wellFormed⟩
    cases port with
    | none =>
        rfl
    | some digits =>
        exact if_pos ⟨rfl, wellFormed digits rfl⟩

def OriginMatch.wholeMatch (found : OriginMatch) : List Char :=
  found.scheme.text.toList ++ "://".toList ++
    (found.hostname ++ portLetters found.port)

theorem execOriginPattern_eq_some_iff {found : OriginMatch} :
    execOriginPattern letters = some found ↔
      letters = found.wholeMatch ∧ IsKnownHost found.hostname ∧
        ∀ digits ∈ found.port, isPort digits := by
  constructor
  · intro matched
    obtain ⟨⟨scheme, behindScheme⟩, schemeMatched, matched⟩ :=
      Option.bind_eq_some_iff.mp matched
    obtain ⟨⟨hostname, behindHostname⟩, hostnameMatched, matched⟩ :=
      Option.bind_eq_some_iff.mp matched
    obtain ⟨port, portMatched, same⟩ := Option.bind_eq_some_iff.mp matched
    obtain rfl : ⟨scheme, hostname, port⟩ = found := Option.some.inj same
    obtain ⟨rfl, known⟩ := matchHostname_eq_some hostnameMatched
    obtain ⟨rfl, wellFormed⟩ := matchPort_eq_some_iff.mp portMatched
    exact ⟨matchScheme_eq_some_iff.mp schemeMatched, known, wellFormed⟩
  · rintro ⟨rfl, known, wellFormed⟩
    have schemeMatched :
        matchScheme found.wholeMatch =
          some (found.scheme, found.hostname ++ portLetters found.port) :=
      matchScheme_eq_some_iff.mpr rfl
    have portMatched : matchPort (portLetters found.port) = some found.port :=
      matchPort_eq_some_iff.mpr ⟨rfl, wellFormed⟩
    have hostnameMatched :=
      matchHostname_append known (head_portLetters found.port)
    exact Option.bind_eq_some_iff.mpr
      ⟨_, schemeMatched, Option.bind_eq_some_iff.mpr
        ⟨_, hostnameMatched, Option.bind_eq_some_iff.mpr
          ⟨_, portMatched, rfl⟩⟩⟩

theorem isTrustedOrigin_iff {header : Option String} {trusted : TrustedOrigin} :
    isTrustedOrigin header trusted ↔
      ∃ text found, header = some text ∧
        execOriginPattern text.toList = some found ∧
        found.portNumber ≤ 65535 ∧ found.scheme = trusted.scheme ∧
        String.ofList found.hostname = trusted.hostname ∧
        found.portNumber = trusted.port := by
  constructor
  · intro accepted
    cases header with
    | none =>
        exact absurd accepted Bool.false_ne_true
    | some text =>
        cases matched : execOriginPattern text.toList with
        | none =>
            simp [isTrustedOrigin, matched] at accepted
        | some found =>
            refine ⟨text, found, rfl, matched, ?_⟩
            simpa [isTrustedOrigin, matched, and_assoc] using accepted
  · rintro ⟨text, found, rfl, matched, bounded, sameScheme, sameHost, samePort⟩
    rw [samePort] at bounded
    simp [isTrustedOrigin, matched, bounded, sameScheme, sameHost, samePort]

theorem isPort_iff :
    isPort digits ↔
      (∀ digit ∈ digits, digit.isDigit) ∧ digits ≠ [] ∧
        digits.head? ≠ some '0' ∧ digits.length ≤ 5 := by
  cases digits with
  | nil =>
      simp [isPort]
  | cons digit rest =>
      simp [isPort, and_assoc]

/-- A port that is not zero is written as the pattern expects it. -/
theorem isPort_toDigits {port : Nat} (positive : 0 < port)
    (bounded : port ≤ 65535) : isPort (Nat.toDigits 10 port) := by
  refine isPort_iff.mpr ⟨?_, Nat.toDigits_ne_nil, ?_, ?_⟩
  · intro digit member
    exact Nat.isDigit_of_mem_toDigits (by decide) (by decide) member
  · exact head_toDigits_ne_zero positive
  · rw [Nat.length_toDigits_le_iff (by decide) (by decide)]
    omega

theorem toDigits_numberOf (wellFormed : isPort digits) :
    Nat.toDigits 10 (numberOf digits) = digits := by
  obtain ⟨areDigits, nonempty, noLeadingZero, -⟩ := isPort_iff.mp wellFormed
  exact toDigits_ofDigitChars nonempty areDigits noLeadingZero

theorem numberOf_toDigits (number : Nat) :
    numberOf (Nat.toDigits 10 number) = number :=
  Nat.ofDigitChars_ten_toDigits

/-! ## The trusted origin of a base URL -/

theorem standardPort_text (scheme : Scheme) :
    standardPort scheme.text = some (defaultPorts scheme) := by
  cases scheme with
  | http =>
      decide
  | https =>
      decide

theorem defaultPorts_le (scheme : Scheme) : defaultPorts scheme ≤ 65535 := by
  cases scheme with
  | http =>
      decide
  | https =>
      decide

namespace ParsedUrl

/-- The port of the URL, or the one its scheme stands for. -/
def effectivePort (url : ParsedUrl) : Option Nat :=
  url.port.or (standardPort url.scheme)

end ParsedUrl

section Configured

variable {parse : String → Option ParsedUrl} {configuredBaseUrl : String}
  {url : ParsedUrl} {scheme : Scheme} {trusted : TrustedOrigin}

theorem numberOf_portText {port : Nat} (explicit : url.port = some port) :
    url.portText ≠ "" ∧ numberOf url.portText.toList = port := by
  unfold ParsedUrl.portText
  rw [explicit]
  constructor
  · intro blank
    have letters := congrArg String.toList blank
    rw [Nat.toList_repr] at letters
    exact Nat.toDigits_ne_nil letters
  · dsimp only
    rw [Nat.toList_repr, numberOf_toDigits]

theorem port_of_portText
    (sameScheme : url.scheme = scheme.text) :
    url.effectivePort =
      some (if url.portText = "" then defaultPorts scheme
        else numberOf url.portText.toList) := by
  unfold ParsedUrl.effectivePort
  cases explicit : url.port with
  | none =>
      have blank : url.portText = "" := by
        rw [ParsedUrl.portText, explicit]
      rw [if_pos blank, Option.none_or, sameScheme, standardPort_text]
  | some port =>
      obtain ⟨nonempty, read⟩ := numberOf_portText explicit
      rw [if_neg nonempty, read, Option.some_or]

/-- The trusted origin has the scheme, host and port of the URL. -/
theorem trustedOriginFrom_eq_ok (parsed : parse configuredBaseUrl = some url)
    (configured : trustedOriginFrom parse configuredBaseUrl = .ok trusted) :
    url.scheme = trusted.scheme.text ∧ trusted.hostname = url.hostname ∧
      url.effectivePort = some trusted.port := by
  rw [trustedOriginFrom, parsed] at configured
  dsimp only at configured
  by_cases secure : url.protocol = "https:"
  · have sameScheme : url.scheme = Scheme.https.text :=
      (String.append_left_inj ":").mp secure
    rw [if_neg (fun neither => neither.2 secure), if_pos secure] at configured
    obtain rfl := Except.ok.inj configured
    exact ⟨sameScheme, rfl, port_of_portText sameScheme⟩
  · rw [if_neg secure] at configured
    by_cases plain : url.protocol = "http:"
    · have sameScheme : url.scheme = Scheme.http.text :=
        (String.append_left_inj ":").mp plain
      rw [if_neg (fun neither => neither.1 plain)] at configured
      obtain rfl := Except.ok.inj configured
      exact ⟨sameScheme, rfl, port_of_portText sameScheme⟩
    · rw [if_pos ⟨plain, secure⟩] at configured
      cases configured

/-- Whether the endpoint trusts the origin of the URL and no other. -/
structure TrustsExactly (url : ParsedUrl) (trusted : TrustedOrigin) : Prop where
  own : isTrustedOrigin (some url.serializedOrigin) trusted
  /-- The port may be left out when it is the one of the scheme. -/
  noOther :
    ∀ header, isTrustedOrigin header trusted →
      (header = some (url.scheme ++ "://" ++ url.hostname) ∧
          url.effectivePort = standardPort url.scheme) ∨
        ∃ port, url.effectivePort = some port ∧
          header =
            some (url.scheme ++ "://" ++ url.hostname ++ ":" ++ Nat.repr port)

/-- An accepted header is matched with the scheme and host of the URL. -/
theorem match_of_accepted {header : Option String}
    (sameHost : trusted.hostname = url.hostname)
    (accepted : isTrustedOrigin header trusted) :
    ∃ text port, header = some text ∧
      text.toList =
        OriginMatch.wholeMatch ⟨trusted.scheme, url.hostname.toList, port⟩ ∧
      IsKnownHost url.hostname.toList ∧ (∀ digits ∈ port, isPort digits) ∧
      OriginMatch.portNumber ⟨trusted.scheme, url.hostname.toList, port⟩ =
        trusted.port := by
  obtain ⟨text, found, isText, matched, -, foundScheme, foundHost, foundPort⟩ :=
    isTrustedOrigin_iff.mp accepted
  obtain ⟨letters, known, wellFormed⟩ :=
    execOriginPattern_eq_some_iff.mp matched
  have hostname : found.hostname = url.hostname.toList := by
    rw [← sameHost, ← foundHost, String.toList_ofList]
  obtain ⟨scheme, host, port⟩ := found
  dsimp only at foundScheme hostname known wellFormed
  subst foundScheme hostname
  exact ⟨text, port, isText, letters, known, wellFormed, foundPort⟩

/-- An accepted header spells the origin of the URL, whatever its host. -/
theorem accepted_spells {header : Option String}
    (sameScheme : url.scheme = trusted.scheme.text)
    (sameHost : trusted.hostname = url.hostname)
    (samePort : url.effectivePort = some trusted.port)
    (accepted : isTrustedOrigin header trusted) :
    (header = some (url.scheme ++ "://" ++ url.hostname) ∧
        url.effectivePort = standardPort url.scheme) ∨
      ∃ port, url.effectivePort = some port ∧
        header =
          some
            (url.scheme ++ "://" ++ url.hostname ++ ":" ++ Nat.repr port) := by
  obtain ⟨text, port, rfl, letters, -, wellFormed, foundPort⟩ :=
    match_of_accepted sameHost accepted
  rw [OriginMatch.wholeMatch, ← sameScheme] at letters
  cases port with
  | none =>
      left
      constructor
      · apply congrArg some
        apply String.toList_inj.mp
        simp [letters, portLetters]
      · rw [samePort, sameScheme, standardPort_text, ← foundPort]
        rfl
  | some digits =>
      right
      refine ⟨trusted.port, samePort, ?_⟩
      have portText : Nat.toDigits 10 trusted.port = digits := by
        rw [← foundPort]
        exact toDigits_numberOf (wellFormed digits rfl)
      apply congrArg some
      apply String.toList_inj.mp
      simp [letters, portLetters, portText]

/-- What the pattern has to make of the origin of the URL. -/
def ParsedUrl.ownMatch (url : ParsedUrl) (scheme : Scheme) : OriginMatch :=
  ⟨scheme, url.hostname.toList, url.port.map (Nat.toDigits 10)⟩

theorem toList_serializedOrigin (sameScheme : url.scheme = scheme.text) :
    url.serializedOrigin.toList = (url.ownMatch scheme).wholeMatch := by
  rw [ParsedUrl.serializedOrigin, sameScheme, OriginMatch.wholeMatch,
    ParsedUrl.ownMatch]
  cases url.port with
  | none =>
      simp [portLetters]
  | some port =>
      simp [portLetters]

theorem portNumber_ownMatch (sameScheme : url.scheme = scheme.text) :
    url.effectivePort = some (url.ownMatch scheme).portNumber := by
  rw [ParsedUrl.effectivePort, OriginMatch.portNumber, ParsedUrl.ownMatch,
    sameScheme, standardPort_text]
  cases url.port with
  | none =>
      rfl
  | some port =>
      exact congrArg some (numberOf_toDigits port).symm

theorem portNumber_ownMatch_le :
    (url.ownMatch scheme).portNumber ≤ 65535 := by
  rw [OriginMatch.portNumber, ParsedUrl.ownMatch]
  cases explicit : url.port with
  | none =>
      exact defaultPorts_le scheme
  | some port =>
      exact (numberOf_toDigits port).trans_le (url.portBound port explicit)

theorem isPort_of_not_zero (notZero : url.port ≠ some 0) :
    ∀ digits ∈ (url.ownMatch scheme).port, isPort digits := by
  intro digits present
  obtain ⟨port, explicit, rfl⟩ := Option.map_eq_some_iff.mp present
  have positive : 0 < port := by
    rcases Nat.eq_zero_or_pos port with rfl | positive
    · exact absurd explicit notZero
    · exact positive
  exact isPort_toDigits positive (url.portBound port explicit)

theorem own_accepted (sameScheme : url.scheme = trusted.scheme.text)
    (sameHost : trusted.hostname = url.hostname)
    (samePort : url.effectivePort = some trusted.port)
    (known : IsKnownHost url.hostname.toList) (notZero : url.port ≠ some 0) :
    isTrustedOrigin (some url.serializedOrigin) trusted := by
  have matched :
      execOriginPattern url.serializedOrigin.toList =
        some (url.ownMatch trusted.scheme) :=
    execOriginPattern_eq_some_iff.mpr
      ⟨toList_serializedOrigin sameScheme, known, isPort_of_not_zero notZero⟩
  have ownPort :
      (url.ownMatch trusted.scheme).portNumber = trusted.port := by
    rw [portNumber_ownMatch sameScheme] at samePort
    exact Option.some.inj samePort
  refine isTrustedOrigin_iff.mpr
    ⟨_, _, rfl, matched, portNumber_ownMatch_le, rfl, ?_, ownPort⟩
  rw [sameHost]
  exact String.ofList_toList

/-- A host the grammar does not know is refused, and so is port zero. -/
theorem known_of_own_accepted (sameScheme : url.scheme = trusted.scheme.text)
    (sameHost : trusted.hostname = url.hostname)
    (accepted : isTrustedOrigin (some url.serializedOrigin) trusted) :
    IsKnownHost url.hostname.toList ∧ url.port ≠ some 0 := by
  obtain ⟨text, port, same, letters, known, wellFormed, -⟩ :=
    match_of_accepted sameHost accepted
  obtain rfl := Option.some.inj same
  rw [toList_serializedOrigin sameScheme] at letters
  have samePort := List.append_cancel_left (List.append_cancel_left letters)
  refine ⟨known, ?_⟩
  intro zero
  rw [ParsedUrl.ownMatch, zero] at samePort
  cases port with
  | none =>
      exact absurd samePort (List.cons_ne_nil _ _)
  | some digits =>
      obtain ⟨-, rfl⟩ := List.cons.inj samePort
      have zeroPort := wellFormed _ rfl
      revert zeroPort
      decide

/-- The endpoint trusts exactly its own origin when the grammar knows the host
and the port is not zero. -/
theorem trusts_exactly_iff (parsed : parse configuredBaseUrl = some url)
    (configured : trustedOriginFrom parse configuredBaseUrl = .ok trusted) :
    TrustsExactly url trusted ↔
      IsKnownHost url.hostname.toList ∧ url.port ≠ some 0 := by
  obtain ⟨sameScheme, sameHost, samePort⟩ :=
    trustedOriginFrom_eq_ok parsed configured
  constructor
  · intro exactly
    exact known_of_own_accepted sameScheme sameHost exactly.own
  · rintro ⟨known, notZero⟩
    refine ⟨own_accepted sameScheme sameHost samePort known notZero, ?_⟩
    intro header accepted
    exact accepted_spells sameScheme sameHost samePort accepted

end Configured

/-- A base URL on a development port. -/
def plainUrl (hostname : String) : ParsedUrl where
  scheme := "http"
  hostname := hostname
  port := some 3000
  portBound := by
    rintro value ⟨rfl⟩
    decide
  notStandard := Or.inr (by decide)

def parsePlain (text : String) : Option ParsedUrl :=
  if text = "http://localhost:3000" then
    some (plainUrl "localhost")
  else if text = "http://heritage_app:3000" then
    some (plainUrl "heritage_app")
  else
    none

theorem localhost_trusted :
    TrustsExactly (plainUrl "localhost") ⟨.http, "localhost", 3000⟩ := by
  have parsed :
      parsePlain "http://localhost:3000" = some (plainUrl "localhost") :=
    rfl
  have configured :
      trustedOriginFrom parsePlain "http://localhost:3000" =
        .ok ⟨.http, "localhost", 3000⟩ := by
    rfl
  have known : IsKnownHost (plainUrl "localhost").hostname.toList :=
    Or.inl (by decide)
  have notZero : (plainUrl "localhost").port ≠ some 0 := by
    decide
  exact (trusts_exactly_iff parsed configured).mpr ⟨known, notZero⟩

/-- A host with an underscore is refused its own origin. -/
theorem underscore_locked_out :
    trustedOriginFrom parsePlain "http://heritage_app:3000" =
        .ok ⟨.http, "heritage_app", 3000⟩ ∧
      (plainUrl "heritage_app").serializedOrigin =
        "http://heritage_app:3000" ∧
      isTrustedOrigin (some "http://heritage_app:3000")
        ⟨.http, "heritage_app", 3000⟩ = false ∧
      ¬ TrustsExactly (plainUrl "heritage_app")
        ⟨.http, "heritage_app", 3000⟩ := by
  have refused :
      isTrustedOrigin (some "http://heritage_app:3000")
        ⟨.http, "heritage_app", 3000⟩ = false := by
    decide
  refine ⟨rfl, by decide, refused, ?_⟩
  intro exactly
  exact absurd (refused.symm.trans exactly.own) Bool.false_ne_true

end Heritage.Exports.Origin
