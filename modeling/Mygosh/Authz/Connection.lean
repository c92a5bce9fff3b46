/-
  File:      Mygosh/Authz/Connection.lean
  Subject:   From a verified client to connection credentials (`app/server/authz/authz.go`,
             `credentials.go`, the first half of `launch.go`).

  What the outside supplies is a field of `Authz`: the account database, the outcome of loading each
  configured key file, the two policies, `strconv.Unquote` and the digest of a key. Credentials carry
  a pointer to a fresh value of type `credentialIdentity`; which pointer that is, is decided by the
  allocator of the runtime, which is modelled with its rule for values of size zero.
-/
import Mygosh.Authz.Permissions
import Mygosh.Keys

namespace Mygosh.Server

open Keys

/-! ## 1. Accounts and requests -/

/-- `account.Group`. -/
structure Group where
  id : Nat
  name : String
  deriving DecidableEq, Repr

/-- `account.Account`. -/
structure Account where
  username : String
  name : String
  id : Nat
  primaryGroup : Group
  supplementaryGroups : List Group
  homeDir : String
  loginShell : String
  deriving DecidableEq, Repr

/-- `validateAccount`. -/
def validateAccount (account : Account) : Except String Unit :=
  guardWith (account.username = "") "resolved username is required" <|
  guardWith (account.homeDir = "") "account home directory is required" <|
  .ok ()

/-- `auth.VerifiedClient`, the fields authorization reads. -/
structure VerifiedClient where
  requestedUsername : String
  provenKey : PublicKey
  deriving DecidableEq, Repr

/-- `ConnectionRequest`. -/
structure ConnectionRequest where
  verifiedClient : VerifiedClient
  peerAddress : String
  deriving DecidableEq, Repr

/-! ## 2. The matched key -/

/-- `trust.AuthorizedKeyEntry`. -/
structure AuthorizedKeyEntry where
  options : List AuthorizedKeyOption
  key : PublicKey
  deriving DecidableEq, Repr

/-- What happens at one configured path: the context has ended, the path does not resolve, the file
    is absent, unreadable or malformed, or it holds these entries. -/
inductive KeyFile where
  | cancelled (err : String)
  | unresolved (err : String)
  | missing
  | unreadable (resolved err : String)
  | malformed (resolved err : String)
  | entries (resolved : String) (entries : List AuthorizedKeyEntry)
  deriving Repr

/-- `matchedAuthorizedKey`. -/
structure MatchedAuthorizedKey where
  source : String
  constraints : MatchedKeyConstraints
  deriving DecidableEq, Repr

/-- `errors.Join`. -/
def joinErrors : Option String → String → Option String
  | none, e => some e
  | some errs, e => some s!"{errs}\n{e}"

/-- The entry a file is matched on: the first one with the proved key. -/
def matchEntry (provedKey : PublicKey) (entries : List AuthorizedKeyEntry) :
    Option AuthorizedKeyEntry :=
  entries.find? fun entry => entry.key.equal provedKey

/-- The loop of `matchAuthorizedKey` with its accumulators, over what its rounds find. -/
def matchFiles (unquote : String → Except String String) (username : String)
    (provedKey : PublicKey) :
    List KeyFile → Option String → Bool → Except String MatchedAuthorizedKey
  | [], some errs, _ => .error errs
  | [], none, false => .error s!"no authorized keys found for user {username.quote}"
  | [], none, true => .error s!"client public key is not authorized for user {username.quote}"
  | .cancelled e :: _, _, _ => .error e
  | .unresolved e :: rest, errs, found =>
    matchFiles unquote username provedKey rest (joinErrors errs e) found
  | .missing :: rest, errs, found => matchFiles unquote username provedKey rest errs found
  | .unreadable resolved e :: rest, errs, found =>
    matchFiles unquote username provedKey rest
      (joinErrors errs s!"read authorized_keys {resolved.quote}: {e}") found
  | .malformed resolved e :: rest, errs, found =>
    matchFiles unquote username provedKey rest
      (joinErrors errs s!"parse authorized_keys {resolved.quote}: {e}") found
  | .entries resolved entries :: rest, errs, found =>
    match matchEntry provedKey entries with
    | none => matchFiles unquote username provedKey rest errs (found || entries ≠ [])
    | some entry =>
      match errs with
      | some errs => .error errs
      | none =>
        (wrap s!"resolve authorized_keys constraints from {resolved.quote}"
          (parseAuthorizedKeyConstraints unquote entry.options)).map fun constraints =>
            ⟨resolved, constraints⟩

/-- The constraints of a matched key come out of the parser. -/
theorem matchFiles_wellFormed {unquote : String → Except String String} {username : String}
    {provedKey : PublicKey} {files : List KeyFile} {errs : Option String} {found : Bool}
    {matched : MatchedAuthorizedKey}
    (h : matchFiles unquote username provedKey files errs found = .ok matched) :
    matched.constraints.WellFormed := by
  induction files generalizing errs found with
  | nil => cases errs <;> cases found <;> cases h
  | cons file files ih =>
    cases file with
    | cancelled e => cases h
    | unresolved e | missing | unreadable resolved e | malformed resolved e => exact ih h
    | entries resolved entries =>
      rw [matchFiles] at h
      split at h
      · exact ih h
      · split at h
        · cases h
        · obtain ⟨constraints, hp, rfl⟩ := map_eq_ok h
          exact parseAuthorizedKeyConstraints_wellFormed (wrap_eq_ok hp)

/-! ## 3. Identity tokens -/

abbrev Address := Nat

/-- The heap as far as fresh addresses go: the first one not handed out yet. -/
structure Heap where
  next : Address
  deriving DecidableEq, Repr

/-- `runtime.zerobase`: the one address of all heap values of size zero. -/
def zerobase : Address := 0

/-- `runtime.mallocgc`: a value of size zero is not allocated, its pointer is `&zerobase`. -/
def mallocgc (size : Nat) (heap : Heap) : Address × Heap :=
  if size = 0 then (zerobase, heap) else (heap.next, ⟨heap.next + size⟩)

/-- `unsafe.Sizeof(credentialIdentity{})`: the struct has no field. -/
def credentialIdentitySize : Nat := 0

/-! ## 4. Credentials -/

/-- `ConnectionCredentials`. -/
structure ConnectionCredentials where
  authenticationMethod : String
  keyFingerprint : String
  requestedUsername : String
  peerAddress : String
  provedKey : PublicKey
  account : Account
  matchedSource : String
  matchedKeyConstraints : MatchedKeyConstraints
  permissions : ConnectionPermissions
  identityToken : Option Address
  deriving DecidableEq, Repr

/-- `Authz`, with what it is configured with and what it asks the system for. -/
structure Authz where
  resolve : String → Except String Account
  authorizedKeysPaths : List String
  load : Account → String → KeyFile
  accountPolicy : ConnectionRequest → Account → String → Except String Unit
  permissionPolicy : ConnectionRequest → Account → String → Except String PermissionDecision
  unquote : String → Except String String
  digest : List UInt8 → String

/-- `ConnectionCredentials.validate`. -/
def ConnectionCredentials.validate (c : ConnectionCredentials) : Except String Unit :=
  guardWith (c.authenticationMethod = "") "authentication method is required" <|
  guardWith (c.requestedUsername = "") "requested username is required" <|
  (wrap "proved client key" c.provedKey.validate).bind fun _ =>
  guardWith (c.keyFingerprint = "") "client key fingerprint is required" <|
  (validateAccount c.account).bind fun _ =>
  guardWith (!isAbs c.account.homeDir) "account home directory must be absolute" <|
  guardWith (c.matchedSource = "") "matched policy source is required" <|
  (wrap "matched authorized-key constraints" c.matchedKeyConstraints.validate).bind fun _ =>
  (wrap "connection permissions" c.permissions.validate).bind fun _ =>
  guardWith ((c.permissions.allowShell || c.permissions.allowExec) && !isAbs c.account.loginShell)
    "permitted launch requires an absolute account login shell" <|
  guardWith (c.identityToken = none) "credential identity token is required" <|
  .ok ()

/-- `newConnectionCredentials`. -/
def newConnectionCredentials (a : Authz) (request : ConnectionRequest) (account : Account)
    (matched : MatchedAuthorizedKey) (permissions : ConnectionPermissions) (heap : Heap) :
    ConnectionCredentials × Heap :=
  let token := mallocgc credentialIdentitySize heap
  ({ authenticationMethod := "public-key"
     keyFingerprint := "SHA256:" ++ a.digest request.verifiedClient.provenKey.bytes
     requestedUsername := request.verifiedClient.requestedUsername
     peerAddress := request.peerAddress
     provedKey := request.verifiedClient.provenKey
     account := account
     matchedSource := matched.source
     matchedKeyConstraints := matched.constraints
     permissions := permissions
     identityToken := some token.1 }, token.2)

/-- `AuthorizeConnection` up to the construction of the credentials. `ctx` is the error of the
    context, if it has ended. -/
def Authz.resolveConnection (a : Authz) (ctx : Option String) (request : ConnectionRequest) :
    Except String (Account × MatchedAuthorizedKey × ConnectionPermissions) :=
  match ctx with
  | some e => .error e
  | none =>
    let username := request.verifiedClient.requestedUsername
    let provenKey := request.verifiedClient.provenKey
    guardWith (username = "" || provenKey.validate.toOption.isNone)
      "verified client proof is incomplete" <|
    (wrap s!"resolve account for requested user {username.quote}" (a.resolve username)).bind
      fun account =>
    (wrap "validate resolved account" (validateAccount account)).bind fun _ =>
    (matchFiles a.unquote account.username provenKey (a.authorizedKeysPaths.map (a.load account))
      none false).bind fun matched =>
    (wrap "apply account policy" (a.accountPolicy request account matched.source)).bind fun _ =>
    (wrap "resolve connection permissions"
      (a.permissionPolicy request account matched.source)).bind fun decision =>
    (wrap "apply authorized-key constraints"
      (applyMatchedKeyConstraints decision matched.constraints)).bind fun decision =>
    (wrap "validate connection permissions" (newConnectionPermissions decision)).map
      fun permissions => (account, matched, permissions)

/-- `Authz.AuthorizeConnection`. -/
def Authz.authorizeConnection (a : Authz) (ctx : Option String) (request : ConnectionRequest)
    (heap : Heap) : Except String ConnectionCredentials × Heap :=
  match a.resolveConnection ctx request with
  | .error e => (.error e, heap)
  | .ok (account, matched, permissions) =>
    let created := newConnectionCredentials a request account matched permissions heap
    (wrap "validate connection credentials" (created.1.validate.map fun _ => created.1), created.2)

/-- **What issued credentials rest on**: the resolved account, the constraints of the matched key and
    the policy's decision, merged and validated, and the token the allocator returned. -/
structure Issued (a : Authz) (request : ConnectionRequest) (heap : Heap)
    (decision : PermissionDecision) (c : ConnectionCredentials) : Prop where
  account : a.resolve request.verifiedClient.requestedUsername = .ok c.account
  constraints : c.matchedKeyConstraints.WellFormed
  decided : a.permissionPolicy request c.account c.matchedSource = .ok decision
  permissions : ∃ merged, Merged decision c.matchedKeyConstraints merged ∧
    Snapshot merged c.permissions
  token : c.identityToken = some (mallocgc credentialIdentitySize heap).1
  valid : c.validate = .ok ()

theorem Authz.resolveConnection_eq_ok {a : Authz} {ctx : Option String} {request : ConnectionRequest}
    {account : Account} {matched : MatchedAuthorizedKey} {permissions : ConnectionPermissions}
    (h : a.resolveConnection ctx request = .ok (account, matched, permissions)) :
    a.resolve request.verifiedClient.requestedUsername = .ok account ∧
    matched.constraints.WellFormed ∧
    ∃ decision, a.permissionPolicy request account matched.source = .ok decision ∧
      ∃ merged, Merged decision matched.constraints merged ∧ Snapshot merged permissions := by
  cases ctx with
  | some e => cases h
  | none =>
    obtain ⟨-, h⟩ := guardWith_eq_ok h
    obtain ⟨account', hacc, h⟩ := bind_eq_ok h
    obtain ⟨_, -, h⟩ := bind_eq_ok h
    obtain ⟨matched', hm, h⟩ := bind_eq_ok h
    obtain ⟨_, -, h⟩ := bind_eq_ok h
    obtain ⟨decision, hd, h⟩ := bind_eq_ok h
    obtain ⟨merged, hmerged, h⟩ := bind_eq_ok h
    obtain ⟨permissions', hp, h⟩ := map_eq_ok h
    cases h
    exact ⟨wrap_eq_ok hacc, matchFiles_wellFormed hm, decision, wrap_eq_ok hd, merged,
      applyMatchedKeyConstraints_eq_ok (wrap_eq_ok hmerged),
      newConnectionPermissions_eq_ok (wrap_eq_ok hp)⟩

theorem Authz.authorizeConnection_eq_ok {a : Authz} {ctx : Option String}
    {request : ConnectionRequest} {heap : Heap} {c : ConnectionCredentials}
    (h : (a.authorizeConnection ctx request heap).1 = .ok c) :
    ∃ decision, Issued a request heap decision c := by
  unfold Authz.authorizeConnection at h
  cases hr : a.resolveConnection ctx request with
  | error e => rw [hr] at h; cases h
  | ok r =>
    obtain ⟨account, matched, permissions⟩ := r
    obtain ⟨hacc, hwf, decision, hd, hmerged⟩ := Authz.resolveConnection_eq_ok hr
    rw [hr] at h
    obtain ⟨_, hvalid, rfl⟩ := map_eq_ok (wrap_eq_ok h)
    exact ⟨decision, hacc, hwf, hd, hmerged, rfl, hvalid⟩

/-! ## 5. Channel grants -/

/-- `CommandChannelType`. -/
def commandChannelType : String := "command"

/-- `ChannelAuthorizationRequest`. -/
structure ChannelAuthorizationRequest where
  type : String
  payload : List UInt8
  deriving DecidableEq, Repr

/-- `AuthorizedChannel`. -/
structure AuthorizedChannel where
  channelType : String
  credentialIdentity : Option Address
  deriving DecidableEq, Repr

/-- `Authz.AuthorizeChannel`. -/
def authorizeChannel (ctx : Option String) (credentials : ConnectionCredentials)
    (request : ChannelAuthorizationRequest) : Except String AuthorizedChannel :=
  match ctx with
  | some e => .error e
  | none =>
    (wrap "validate connection credentials" credentials.validate).bind fun _ =>
    guardWith (request.type ≠ commandChannelType)
      s!"unsupported channel type {request.type.quote}" <|
    guardWith (!credentials.permissions.allowCommand) "command channels are not permitted" <|
    .ok ⟨request.type, credentials.identityToken⟩

/-- A grant is for command channels and carries the token of its credentials. -/
theorem authorizeChannel_eq_ok {ctx : Option String} {credentials : ConnectionCredentials}
    {request : ChannelAuthorizationRequest} {channel : AuthorizedChannel}
    (h : authorizeChannel ctx credentials request = .ok channel) :
    channel = ⟨commandChannelType, credentials.identityToken⟩ := by
  cases ctx with
  | some e => cases h
  | none =>
    obtain ⟨_, -, h⟩ := bind_eq_ok h
    obtain ⟨ht, h⟩ := guardWith_eq_ok h
    obtain ⟨-, h⟩ := guardWith_eq_ok h
    cases h
    rw [not_not.mp (of_decide_eq_false ht)]

end Mygosh.Server
