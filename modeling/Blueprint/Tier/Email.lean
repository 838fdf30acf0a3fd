import Blueprint.Tier

/-!
The email tier: a user that may send mail, and a secret with the credentials it uses. It is declared
only for deployments that send mail.
-/

namespace Blueprint.Email

def userId : ResourceId := .lit "User"
def policyId : ResourceId := .lit "UserSendPolicy"
def credentialsId : ResourceId := .lit "SmtpCredentials"
def secretId : ResourceId := .lit "SmtpCredentialsSecret"

def userName (scope : Scope) : String := scope.name ++ "SesEmailSender"

def secretName (scope : Scope) : String := scope.name ++ "-SesSmtpCredentials"

/-- The resources of the tier. -/
def resources (t : Topology) (scope : Scope) : List Resource :=
  let user := t.own userId Attribute.self
  [{ id := userId, spec := .user ⟨userName scope⟩ },
    { id := policyId
      spec := .policy
        { name := userName scope ++ "Send"
          holder := .user user
          statements := [.allow ["ses:SendRawEmail"] [.literal "*"]] } },
    { id := credentialsId, spec := .mailCredentials ⟨user, scope.region.name⟩ },
    { id := secretId
      spec := .secret
        { name := secretName scope
          description := "SES SMTP credentials for " ++ userName scope
          generated := none
          given := some (t.own credentialsId "Credentials") } }]

/-- Declare the email tier, if mail is enabled. -/
def create (scope : Scope) (enabled : Bool) : Except ModelError (Option (Tier CredentialHandle)) :=
  if enabled then do
    let t := Topology.new (scope.topologyName "Email") scope.region
    let topology ← t.declare (resources t scope)
    let topology ← topology.tell
      [.exported "OutputEmailSecretArn" (t.own secretId Attribute.self)]
    return some
      { topology, handle := ⟨secretName scope, t.reference secretId Attribute.self⟩ }
  else return none

end Blueprint.Email
