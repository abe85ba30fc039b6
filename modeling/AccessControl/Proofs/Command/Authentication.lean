import AccessControl.Command.Authentication
import AccessControl.Proofs.Token.Signed

/-!
# Who is the actor of a command

`Authenticator.Establishes` says, for each of the three ways in which a command can reach the
library, when the message establishes its actor: the key of the signer's account, a bearer token or
a signed command. `Authenticator.authenticate_eq_ok_iff_establishes` says that a message is accepted
in exactly these cases, and for no other actor, policy or command.
-/

namespace AccessControl.Authenticator

variable [SignatureSuite] {authenticator : Authenticator} {params : Params} {signer : Address}
  {now : Timestamp} {message : CommandMessage} {result : AuthenticatedCommand}

/-- When a message establishes the actor of a command. -/
inductive Establishes (authenticator : Authenticator) (params : Params) (signer : Address)
    (now : Timestamp) : CommandMessage → AuthenticatedCommand → Prop where
  /-- The key of the signer's account is the actor's. -/
  | direct {policyId : String} {command : Command} {account : Account} {key : AccountKey}
      {publicKey : PublicKey} :
    authenticator.accounts.account? signer = some account → account.key = some key →
    key.publicKey = .ok publicKey →
    Establishes authenticator params signer now (.direct policyId command)
      ⟨publicKey.did, policyId, command⟩
  /-- The actor granted the signer a token. -/
  | bearer {token policyId : String} {command : Command} {actor : Did} :
    BearerToken.Grants token authenticator.resolver signer now.wall params actor →
    Establishes authenticator params signer now (.bearer token policyId command)
      ⟨actor, policyId, command⟩
  /-- The actor signed the command. -/
  | signed {token : String} {signed : SignedCommand} :
    SignedCommand.Valid token authenticator.resolver now params signed →
    Establishes authenticator params signer now (.signed token)
      ⟨signed.actor, signed.policyId, signed.command⟩

theorem signerDid_eq_ok_iff {accounts : AccountKeeper} {actor : Did} :
    signerDid accounts signer = .ok actor ↔ ∃ account key publicKey,
      accounts.account? signer = some account ∧ account.key = some key ∧
        key.publicKey = .ok publicKey ∧ actor = publicKey.did := by
  unfold signerDid
  constructor
  · intro h
    split at h
    · rename_i account haccount
      split at h
      · rename_i key hkey
        simp only [bind_eq_ok_iff, mapError_eq_ok_iff, pure_eq_ok_iff] at h
        obtain ⟨publicKey, hpublic, rfl⟩ := h
        exact ⟨account, key, publicKey, haccount, hkey, hpublic, rfl⟩
      · cases h
    · cases h
  · rintro ⟨account, key, publicKey, haccount, hkey, hpublic, rfl⟩
    rw [haccount]
    simp only [hkey, bind_eq_ok_iff, mapError_eq_ok_iff, pure_eq_ok_iff]
    exact ⟨publicKey, hpublic, rfl⟩

/-- **A message is accepted exactly if it establishes the actor**, with the policy and the command
that it names. -/
theorem authenticate_eq_ok_iff_establishes :
    authenticator.authenticate params signer now message = .ok result ↔
      authenticator.Establishes params signer now message result := by
  cases message with
  | direct policyId command =>
    simp only [authenticate, bind_eq_ok_iff, pure_eq_ok_iff, signerDid_eq_ok_iff]
    constructor
    · rintro ⟨_, ⟨account, key, publicKey, haccount, hkey, hpublic, rfl⟩, rfl⟩
      exact .direct haccount hkey hpublic
    · rintro ⟨haccount, hkey, hpublic⟩
      exact ⟨_, ⟨_, _, _, haccount, hkey, hpublic, rfl⟩, rfl⟩
  | bearer token policyId command =>
    simp only [authenticate, bind_eq_ok_iff, pure_eq_ok_iff, BearerToken.authenticate_eq_ok_iff]
    constructor
    · rintro ⟨actor, hgrants, rfl⟩
      exact .bearer hgrants
    · rintro ⟨⟩
      rename_i actor hgrants
      exact ⟨actor, hgrants, rfl⟩
  | signed token =>
    simp only [authenticate, bind_eq_ok_iff, pure_eq_ok_iff, SignedCommand.authenticate_eq_ok_iff]
    constructor
    · rintro ⟨signed, hvalid, rfl⟩
      exact .signed hvalid
    · rintro ⟨⟩
      rename_i signed hvalid
      exact ⟨signed, hvalid, rfl⟩

end AccessControl.Authenticator
