import Heritage.Activation.Source
import Heritage.Exports.Origin
import Heritage.Exports.Schemas

/-!
# The gates of the activation routes

`http.ts` and `schemas.ts` of activation.  A request passes the gates for its
headers before anything is stored; its body is read chunk by chunk, up to a
number of bytes.
-/

namespace Heritage.Activation.Gates

open Heritage.Activation.Source (HeadersLike)
open Heritage.Calendar (codeUnits)
open Heritage.Exports (RawValue Issue Checked property)
open Heritage.Exports.Origin (ParsedUrl numberOf)
open Heritage.Text (isWhiteSpace trim)

/-- A response with the headers that `withActivationHeaders` sets. -/
structure Response where
  status : Nat
  code : Option String
  message : Option String
  details : List Issue
  cacheControl : String
  referrerPolicy : String
  deriving DecidableEq, Repr

def jsonResponse (status : Nat) (error : Option (String × String))
    (details : List Issue) : Response where
  status := status
  code := error.map Prod.fst
  message := error.map Prod.snd
  details := details
  cacheControl := "no-store"
  referrerPolicy := "no-referrer"

def validationErrorResponse (issues : List Issue) : Response :=
  jsonResponse 400
    (some ("VALIDATION_ERROR", "The request did not pass validation."))
    issues

def forbiddenResponse : Response :=
  jsonResponse 403 (some ("FORBIDDEN", "Request rejected.")) []

/-- What one read of a body stream gives before its end. -/
inductive ChunkRead where
  | chunk (bytes : List UInt8)
  /-- A read without a value. -/
  | nothing
  | fails
  deriving DecidableEq, Repr

structure HttpRequest where
  headers : HeadersLike
  /-- The reads of the body stream before its end; absent without a body. -/
  body : Option (List ChunkRead)

/-- `betterAuthUrl` is the configured base URL, `parse` the `URL`
constructor of the platform. -/
def checkOrigin (parse : String → Option ParsedUrl) (betterAuthUrl : String)
    (request : HttpRequest) : Except Response Unit :=
  match (request.headers "origin").filter fun value => value ≠ "" with
  | none => .error forbiddenResponse
  | some originHeader =>
      match parse betterAuthUrl, parse originHeader with
      | some expected, some actual =>
          if actual.serializedOrigin ≠ expected.serializedOrigin then
            .error forbiddenResponse
          else
            .ok ()
      | _, _ => .error forbiddenResponse

/-- `[\w-]` -/
def isCharsetLetter (letter : Char) : Bool :=
  letter.isAlphanum || letter = '_' || letter = '-'

/-- What follows a text that is written in any case. -/
def afterPrefix? (expected : String) (letters : List Char) :
    Option (List Char) :=
  let length := expected.toList.length
  if (letters.take length).map Char.toLower = expected.toList then
    some (letters.drop length)
  else
    none

/-- `CONTENT_TYPE_PATTERN`. -/
def matchesContentType (value : String) : Bool :=
  match afterPrefix? "application/json" value.toList with
  | none => false
  | some [] => true
  | some rest =>
      match rest.dropWhile isWhiteSpace with
      | ';' :: parameter =>
          (afterPrefix? "charset="
            (parameter.dropWhile isWhiteSpace)).any fun name =>
              name ≠ [] && name.all isCharsetLetter
      | _ => false

def checkContentType (request : HttpRequest) : Except Response Unit :=
  if ((request.headers "content-type").filter fun value => value ≠ "").any
      fun value => matchesContentType (trim value) then
    .ok ()
  else
    .error
      (validationErrorResponse
        [.custom [] "Content-Type must be application/json."])

def maxBodyBytes : Nat := 4096

/-- `Number.MAX_SAFE_INTEGER`. -/
def maxSafeInteger : Nat := 9007199254740991

def bodyTooLong : Response :=
  validationErrorResponse
    [.custom [] "Request body must not exceed 4096 bytes."]

def invalidJson : Response :=
  validationErrorResponse [.custom [] "Request body must be valid JSON."]

def checkDeclaredContentLength (request : HttpRequest) :
    Except Response Unit :=
  match request.headers "content-length" with
  | none => .ok ()
  | some raw =>
      if ¬ (raw ≠ "" ∧ raw.toList.all Char.isDigit) then
        .error
          (validationErrorResponse
            [.custom []
              "Content-Length must be a valid non-negative integer."])
      else if maxSafeInteger < numberOf raw.toList ∨
          maxBodyBytes < numberOf raw.toList then
        .error bodyTooLong
      else
        .ok ()

/-- The loop: `kept` are the bytes of the chunks so far. -/
def readChunks (kept : List UInt8) :
    List ChunkRead → Except Response (List UInt8)
  | [] => .ok kept
  | .fails :: _ => .error invalidJson
  | .nothing :: rest => readChunks kept rest
  | .chunk bytes :: rest =>
      if maxBodyBytes < kept.length + bytes.length then
        .error bodyTooLong
      else
        readChunks (kept ++ bytes) rest

/-- The bytes of the body; `decodeUtf8` makes the text of them. -/
def readBoundedBody (decodeUtf8 : List UInt8 → String)
    (request : HttpRequest) : Except Response String :=
  match request.body with
  | none => .ok ""
  | some reads => (readChunks [] reads).map decodeUtf8

/-- `jsonParse` is `JSON.parse`. -/
def parseJsonBody {α : Type} (jsonParse : String → Option RawValue)
    (schema : RawValue → Except (List Issue) α) (text : String) :
    Except Response α :=
  match if text = "" then some .undefined else jsonParse text with
  | none => .error invalidJson
  | some json => (schema json).mapError validationErrorResponse

/-- `[A-Za-z0-9_-]` -/
def isTokenLetter (letter : Char) : Bool :=
  letter.isAlphanum || letter = '_' || letter = '-'

/-- `/^[A-Za-z0-9_-]{24}$/` -/
def matchesToken (text : String) : Bool :=
  text.toList.length = 24 && text.toList.all isTokenLetter

def activationTokenSchema (key : String) : RawValue → Checked String
  | .string text =>
      { value := some text
        issues :=
          if matchesToken text then []
          else [.custom [key] "token must be exactly 24 characters"] }
  | _ => { value := none, issues := [.invalidType [key]] }

def passwordSchema (key : String) : RawValue → Checked String
  | .string text =>
      { value := some text
        issues :=
          (if 12 ≤ (codeUnits text.toList).length then []
            else
              [.custom [key] "Password must be at least 12 characters."]) ++
            if (codeUnits text.toList).length ≤ 200 then []
            else
              [.custom [key] "Password must not exceed 200 characters."] }
  | _ => { value := none, issues := [.invalidType [key]] }

def textSchema (key : String) : RawValue → Checked String
  | .string text => { value := some text, issues := [] }
  | _ => { value := none, issues := [.invalidType [key]] }

structure ContinueInput where
  token : String
  deriving DecidableEq, Repr

def continueSchema : RawValue → Except (List Issue) ContinueInput
  | .object fields =>
      let token := activationTokenSchema "token" (property fields "token")
      match token.value, token.issues with
      | some text, [] => .ok ⟨text⟩
      | _, issues => .error issues
  | _ => .error [.invalidType []]

structure ActivateInput where
  token : String
  password : String
  confirmPassword : String
  deriving DecidableEq, Repr

/-- The refinement runs when no issue stopped the checks. -/
def confirmationIssues (issues : List Issue)
    (input : Option ActivateInput) : List Issue :=
  if issues.all Issue.continues ∧
      input.any fun data => data.password ≠ data.confirmPassword then
    [.custom ["confirmPassword"] "Passwords do not match."]
  else
    []

def activateSchema : RawValue → Except (List Issue) ActivateInput
  | .object fields =>
      let token := activationTokenSchema "token" (property fields "token")
      let password := passwordSchema "password" (property fields "password")
      let confirmPassword :=
        textSchema "confirmPassword" (property fields "confirmPassword")
      let input := do
        some
          { token := ← token.value
            password := ← password.value
            confirmPassword := ← confirmPassword.value : ActivateInput }
      let issues :=
        token.issues ++ password.issues ++ confirmPassword.issues
      match input, issues ++ confirmationIssues issues input with
      | some data, [] => .ok data
      | _, issues => .error issues
  | _ => .error [.invalidType []]

end Heritage.Activation.Gates
