import LinkedAccess.Credentials
import LinkedAccess.Json.Form

/-!
# Credentials as JSON

Each identity is a record around its text, so that more can be said about it one day.
-/

namespace LinkedAccess

open Json

namespace Credentials

/-- The fields of credentials as far as they have been read. -/
structure Fields where
  agent : Option (Option String) := none
  client : Option (Option String) := none
  issuer : Option (Option String) := none

/-- The agent. -/
def agentForm : Form (Option String) :=
  (Form.wrapped "AgentCredential" "web_id" Form.text).nullable

/-- The application. -/
def clientForm : Form (Option String) :=
  (Form.wrapped "ClientCredential" "client_id" Form.text).nullable

/-- The identity provider. -/
def issuerForm : Form (Option String) :=
  (Form.wrapped "IssuerCredential" "url" Form.text).nullable

/-- Credentials; an identity that is not mentioned is absent. -/
def form : Form Credentials where
  read :=
    Record.read (σ := Fields)
      { name := "Credentials"
        fields :=
          [.stored "agent" agentForm.read (·.agent) fun state identity =>
              { state with agent := some identity },
            .stored "client" clientForm.read (·.client) fun state identity =>
              { state with client := some identity },
            .stored "issuer" issuerForm.read (·.issuer) fun state identity =>
              { state with issuer := some identity }]
        empty := {}
        finish := fun state =>
          .ok ⟨state.agent.join, state.client.join, state.issuer.join⟩ }
  write credentials :=
    .object
      [("agent", agentForm.write credentials.agent),
        ("client", clientForm.write credentials.client),
        ("issuer", issuerForm.write credentials.issuer)]

end Credentials

end LinkedAccess
