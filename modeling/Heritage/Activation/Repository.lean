import Heritage.Invitations.Service

/-!
# Reads and writes of the identities

`repository.ts` of activation: the user, its credential account and the
client profile, which only an activation creates together.
-/

namespace Heritage.Activation.Repository

open Heritage.Store
open Heritage.Invitations

def findUserByEmail (tables : Tables) (email : String) : Option Uuid :=
  (findBy User.email email tables.users).map User.id

def findClientProfileByClientId (tables : Tables) (clientId : Uuid) :
    Option Uuid :=
  (findBy ClientProfile.clientId clientId tables.clientProfiles).map
    ClientProfile.id

def findClientNameById (tables : Tables) (clientId : Uuid) :
    Option String :=
  (findBy Client.id clientId tables.clients).map Client.fullName

structure CreateActivatedAccountInput where
  clientId : Uuid
  name : String
  email : String
  passwordHash : String
  emailVerified : Bool
  deriving DecidableEq, Repr

structure ActivatedAccountRecord where
  userId : Uuid
  clientProfileId : Uuid
  deriving DecidableEq, Repr

/-- The user row an activation inserts. -/
def CreateActivatedAccountInput.user (input : CreateActivatedAccountInput)
    (userId : Uuid) : User where
  id := userId
  name := input.name
  email := input.email
  role := .client
  isActive := true
  emailVerified := input.emailVerified

/-- The nested `accounts.create`. -/
def CreateActivatedAccountInput.account
    (input : CreateActivatedAccountInput) (userId accountRowId : Uuid) :
    Account where
  id := accountRowId
  accountId := userId
  providerId := "credential"
  password := some input.passwordHash
  userId := userId

def createActivatedAccount (platform : Platform) (context : RequestContext)
    (tables : Tables) (input : CreateActivatedAccountInput) :
    Except TxError (ActivatedAccountRecord × Tables) := do
  let userId := context.randomUuid 0
  let clientProfileId := context.randomUuid 1
  let accountRowId := context.randomUuid 2
  require (findBy User.id userId tables.users).isNone
    (.uniqueViolation "User" ["id"])
  require (findUserByEmail tables input.email).isNone
    (.uniqueViolation "User" ["email"])
  -- `user_email_lower_key`
  require
    (∀ user ∈ tables.users,
      platform.lower user.email ≠ platform.lower input.email)
    (.uniqueViolation "User" ["lower(email)"])
  require (findBy Account.id accountRowId tables.accounts).isNone
    (.uniqueViolation "Account" ["id"])
  require (findBy ClientProfile.id clientProfileId tables.clientProfiles).isNone
    (.uniqueViolation "ClientProfile" ["id"])
  require (findBy ClientProfile.userId userId tables.clientProfiles).isNone
    (.uniqueViolation "ClientProfile" ["userId"])
  require (findClientProfileByClientId tables input.clientId).isNone
    (.uniqueViolation "ClientProfile" ["clientId"])
  .ok
    (⟨userId, clientProfileId⟩,
      { tables with
        users := tables.users ++ [input.user userId]
        accounts := tables.accounts ++ [input.account userId accountRowId]
        clientProfiles :=
          tables.clientProfiles ++
            [{ id := clientProfileId
               userId := userId
               clientId := input.clientId }] })

end Heritage.Activation.Repository
