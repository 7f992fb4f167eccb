import PollTunnel.Command.Startup
import PollTunnel.Proofs.Access.Setup

/-!
# Serving with a configuration that has no problems

The rules of a configuration and the parts that are set up from it are apart, and each part checks
its own values once more: the port of the target, the timeouts, the access policy, the route, the
socket.  This file lays the two side by side, for configurations whose tokens, if any, are signed
with a shared secret.

* The port, the timeouts, the token check and the address pass where the rules do
  (`Served`, `TokenCheck.exists_ofConfig`).
* Two values pass the rules unseen: the name of the field that carries the secret, and the path as a
  pattern.  `Obstacle` lists what is then in the way of serving, and `served_of_no_problems` is that
  there is nothing else.  `ofConfig_of_blank_in_header` and `openGateway_of_open_brace` are one
  configuration for each.
-/

set_option autoImplicit false

namespace PollTunnel

variable {fileExists : String → Bool}

/-! ## Ports and timeouts -/

theorem Duration.ofMillis_pos {n : Nat} (h : 0 < n) : 0 < (ofMillis n).nanos := by
  rw [ofMillis]
  dsimp only
  omega

namespace Tunnel

theorem TargetPort.exists_make {n : Nat} (h : 0 < n) : ∃ port, TargetPort.make n = .ok port :=
  ⟨⟨n, h⟩, dif_pos h⟩

namespace Timeouts

theorem setLongPoll_of_pos (t : Timeouts) {d : Duration} (h : 0 < d.nanos) :
    t.setLongPoll d = .ok { t with longPoll := d, longPoll_pos := h } := dif_pos h

theorem setDisconnect_of_pos (t : Timeouts) {d : Duration} (h : 0 < d.nanos) :
    t.setDisconnect d = .ok { t with disconnect := d, disconnect_pos := h } := dif_pos h

theorem exists_ofMillis {longPoll disconnect : Nat} (hlong : 0 < longPoll)
    (hdisconnect : 0 < disconnect) : ∃ t, ofMillis longPoll disconnect = .ok t := by
  rw [ofMillis, setLongPoll_of_pos _ (Duration.ofMillis_pos hlong), ok_bind,
    setDisconnect_of_pos _ (Duration.ofMillis_pos hdisconnect)]
  exact ⟨_, rfl⟩

end Timeouts
end Tunnel

/-! ## Access -/

namespace Config.Security

/-- Tokens, if they are asked for, are signed with a shared secret. -/
def IsShared (s : Config.Security) : Prop := ∀ jwt, s.jwt = some jwt → jwt.secret ≠ none

/-- The field that carries the secret has a name, if requests are to carry one. -/
def IsNamed (s : Config.Security) : Prop :=
  s.jwt = none → s.secret ≠ none → HeaderName.ofString? s.secretHeader ≠ none

/-- What is said where the field of a secret has no name. -/
def unnamed (s : Config.Security) : Access.Error :=
  .configuration ("invalid secret header name '" ++ s.secretHeader ++ "'")

end Config.Security

/-- Only the empty text has no octets. -/
theorem Bytes.ofString_ne_nil {text : String} (h : text ≠ "") : ofString text ≠ [] := by
  obtain ⟨c, hc⟩ := List.exists_mem_of_ne_nil text.toList (mt String.toList_eq_nil_iff.1 h)
  have hpos : 0 < (String.utf8EncodeChar c).length := by
    rw [String.length_utf8EncodeChar]
    exact c.utf8Size_pos
  intro hnil
  rw [List.flatMap_eq_nil_iff.1 hnil c hc] at hpos
  exact absurd hpos (by decide)

namespace Access

theorem SharedSecret.make_of_ne_empty {name secret : String} (h : secret ≠ "") :
    make name secret =
      match HeaderName.ofString? name with
      | some header => .ok ⟨header, Bytes.ofString secret, Bytes.ofString_ne_nil h⟩
      | none => .error (.configuration ("invalid secret header name '" ++ name ++ "'")) :=
  dif_pos (Bytes.ofString_ne_nil h)

namespace Policy

variable {s : Config.Security}

/-- Of a section without problems there is a policy, unless the field of the secret has no name. -/
theorem ofConfig_cases (files : Files) (hvalid : s.problems fileExists = [])
    (hshared : s.IsShared) :
    (s.IsNamed ∧ ∃ policy, ofConfig files s = .ok policy) ∨
      (¬ s.IsNamed ∧ ofConfig files s = .error s.unnamed) := by
  obtain ⟨hempty, htokens⟩ := Config.Security.problems_eq_nil_iff.1 hvalid
  rw [ofConfig.eq_def]
  cases hjwt : s.jwt with
  | some jwt =>
    obtain ⟨check, hcheck⟩ := TokenCheck.exists_ofConfig files (htokens jwt hjwt)
      (hshared jwt hjwt)
    refine Or.inl ⟨fun hnone => ?_, .tokens check, ?_⟩
    · rw [hjwt] at hnone
      cases hnone
    · dsimp only
      rw [hcheck]
  | none =>
    cases hsecret : s.secret with
    | none => exact Or.inl ⟨fun _ h => absurd hsecret h, .permitAll, rfl⟩
    | some secret =>
      have hne : secret ≠ "" := fun h => hempty (h ▸ hsecret)
      dsimp only
      rw [SharedSecret.make_of_ne_empty hne]
      cases hname : HeaderName.ofString? s.secretHeader with
      | none =>
        refine Or.inr ⟨fun h => h hjwt ?_ hname, rfl⟩
        rw [hsecret]
        exact Option.some_ne_none secret
      | some name => exact Or.inl ⟨fun _ _ => by rw [hname]; exact Option.some_ne_none name, _, rfl⟩

end Policy
end Access

/-! ## Serving -/

namespace Command

variable {σ : Type} {host : Host} {config : Config}

/-- What is in the way of serving, though the configuration has no problems. -/
inductive Obstacle (host : Host) (config : Config) : Failure → Prop
  | header (hname : ¬ config.security.IsNamed) :
    Obstacle host config (.setup (.access config.security.unnamed))
  | path (hname : config.security.IsNamed) (hpath : Route.read? config.server.path = none) :
    Obstacle host config (.setup (.path config.server.path))
  | socket {route : Route} {address : SocketAddress} {e : IoError} (hname : config.security.IsNamed)
    (hpath : Route.read? config.server.path = some route)
    (haddress : SocketAddress.ofString? config.server.bindAddress = some address)
    (hbind : host.bind address = .error e) : Obstacle host config (.io e)

/-- A server section without problems leaves access and the path to be settled. -/
theorem gatewayOf_of_server (files : Files) (hserver : config.server.problems = []) :
    ∃ (port : Tunnel.TargetPort) (t : Tunnel.Timeouts), ∀ {σ : Type},
      (gatewayOf files config : Except Failure (Gateway σ × Tunnel.TargetPort)) =
        match Access.Policy.ofConfig files config.security, Route.read? config.server.path with
        | .error e, _ => .error (.setup (.access e))
        | .ok _, none => .error (.setup (.path config.server.path))
        | .ok policy, some route =>
          .ok ({ route, policy, maxBodySize := config.server.maxBodySize
                 tunnel := .ofTimeouts t }, port) := by
  have husable := Config.Server.problems_eq_nil_iff.1 hserver
  obtain ⟨port, hport⟩ := Tunnel.TargetPort.exists_make husable.targetPort
  obtain ⟨t, ht⟩ := Tunnel.Timeouts.exists_ofMillis husable.longPoll husable.disconnect
  refine ⟨port, t, ?_⟩
  intro σ
  rw [gatewayOf, Gateway.ofConfig, hport, ht]
  cases Access.Policy.ofConfig files config.security with
  | error e => rfl
  | ok policy => cases Route.read? config.server.path <;> rfl

section Valid

variable (hvalid : config.problems fileExists = []) (hshared : config.security.IsShared)
include hvalid hshared

/-- What is in the way of serving ends it. -/
theorem openGateway_of_obstacle {failure : Failure} (h : Obstacle host config failure) :
    (openGateway host config : Startup σ).result = .error failure := by
  obtain ⟨⟨hserver, -, hsecurity⟩, -⟩ := Config.problems_eq_nil_iff.1 hvalid
  obtain ⟨port, t, hgateway⟩ := gatewayOf_of_server host.files hserver
  have hpolicy := Access.Policy.ofConfig_cases host.files hsecurity hshared
  rw [openGateway, hgateway]
  cases h with
  | header hname =>
    obtain ⟨hnamed, -⟩ | ⟨-, hpolicy⟩ := hpolicy
    · exact absurd hnamed hname
    · rw [hpolicy]
  | path hname hpath =>
    obtain ⟨-, policy, hpolicy⟩ | ⟨hunnamed, -⟩ := hpolicy
    · rw [hpolicy, hpath]
    · exact absurd hname hunnamed
  | socket hname hpath haddress hbind =>
    obtain ⟨-, policy, hpolicy⟩ | ⟨hunnamed, -⟩ := hpolicy
    · rw [hpolicy, hpath]
      dsimp only
      rw [Host.bindText, haddress]
      dsimp only
      rw [hbind]
    · exact absurd hname hunnamed

/-- With nothing in its way, serving starts. -/
theorem exists_obstacle_or_openGateway_ok (σ : Type) (host : Host) :
    (∃ failure, Obstacle host config failure) ∨
      ∃ service, (openGateway host config : Startup σ).result = .ok service := by
  obtain ⟨⟨hserver, -, hsecurity⟩, -⟩ := Config.problems_eq_nil_iff.1 hvalid
  obtain ⟨port, t, hgateway⟩ := gatewayOf_of_server host.files hserver
  obtain ⟨address, haddress⟩ := (Config.Server.problems_eq_nil_iff.1 hserver).bindAddress
  obtain ⟨hname, policy, hpolicy⟩ | ⟨hname, -⟩ :=
    Access.Policy.ofConfig_cases host.files hsecurity hshared
  · cases hpath : Route.read? config.server.path with
    | none => exact Or.inl ⟨_, .path hname hpath⟩
    | some route =>
      cases hbind : host.bind address with
      | error e => exact Or.inl ⟨_, .socket hname hpath haddress hbind⟩
      | ok bound =>
        right
        rw [openGateway, hgateway, hpolicy, hpath]
        dsimp only
        rw [Host.bindText, haddress]
        dsimp only
        rw [hbind]
        exact ⟨_, rfl⟩
  · exact Or.inl ⟨_, .header hname⟩

theorem openGateway_error_iff (failure : Failure) :
    (openGateway host config : Startup σ).result = .error failure ↔
      Obstacle host config failure := by
  constructor
  · intro h
    obtain ⟨other, hother⟩ | ⟨service, hservice⟩ :=
      exists_obstacle_or_openGateway_ok hvalid hshared σ host
    · rw [openGateway_of_obstacle hvalid hshared hother] at h
      obtain rfl := Except.error.inj h
      exact hother
    · rw [hservice] at h
      cases h
  · exact openGateway_of_obstacle hvalid hshared

end Valid

/-! ### From the arguments on -/

/-- The program runs with no other configuration than one without problems. -/
theorem problems_of_configure {files : Files} {a : Arguments} (h : configure files a = .ok config) :
    config.problems files.contains = [] := by
  rw [configure] at h
  cases hstored : stored files a.common with
  | error e =>
    rw [hstored] at h
    cases h
  | ok found =>
    rw [hstored, ok_bind] at h
    dsimp only at h
    split at h
    · rename_i hnil
      obtain rfl := Except.ok.inj h
      exact hnil
    · cases h

/-- A program that is asked to serve, and gets as far as that, fails for the same reasons. -/
theorem start_error_iff {a : Arguments} {o : ServeOptions} {startup : Startup σ}
    (hside : a.side = .serve o) (h : start host a = .ok (config, startup))
    (hshared : config.security.IsShared) (failure : Failure) :
    startup.result = .error failure ↔ Obstacle host config failure := by
  rw [start] at h
  cases hconfigure : configure host.files a with
  | error e =>
    rw [hconfigure] at h
    cases h
  | ok found =>
    rw [hconfigure, ok_bind] at h
    obtain ⟨rfl, rfl⟩ := Prod.mk.inj (Except.ok.inj h)
    rw [hside]
    exact openGateway_error_iff (problems_of_configure hconfigure) hshared failure

/-! ### From the configuration on -/

/-- What a configuration is served with: the parts that can be set up, and what ends serving. -/
structure Served (host : Host) (config : Config) : Prop where
  target : ∃ port, Tunnel.TargetPort.make config.server.targetPort = .ok port
  timeouts : ∃ t, Tunnel.Timeouts.ofMillis config.server.longPollMillis
    config.server.disconnectMillis = .ok t
  access : (∃ policy, Access.Policy.ofConfig host.files config.security = .ok policy) ↔
    config.security.IsNamed
  serving : ∀ (σ : Type) (failure : Failure),
    (openGateway host config : Startup σ).result = .error failure ↔ Obstacle host config failure

/-- **A configuration without problems is served**, unless the field of its secret has no name, its
path is no pattern, or the machine refuses the socket. -/
theorem served_of_no_problems (host : Host) (hvalid : config.problems fileExists = [])
    (hshared : config.security.IsShared) : Served host config := by
  obtain ⟨⟨hserver, -, hsecurity⟩, -⟩ := Config.problems_eq_nil_iff.1 hvalid
  have husable := Config.Server.problems_eq_nil_iff.1 hserver
  refine ⟨Tunnel.TargetPort.exists_make husable.targetPort,
    Tunnel.Timeouts.exists_ofMillis husable.longPoll husable.disconnect, ?_,
    fun _ failure => openGateway_error_iff hvalid hshared failure⟩
  obtain ⟨hname, hpolicy⟩ | ⟨hname, hpolicy⟩ :=
    Access.Policy.ofConfig_cases host.files hsecurity hshared
  · exact ⟨fun _ => hname, fun _ => hpolicy⟩
  · refine ⟨?_, fun h => absurd h hname⟩
    rintro ⟨policy, hother⟩
    rw [hpolicy] at hother
    cases hother

/-- A machine without files that grants every socket as it is asked for. -/
def bareHost : Host := { files := ⟨fun _ => .error .missing⟩, bind := .ok }

/-- Tokens, signed with a secret; everything else as it is by default. -/
def tokenConfig : Config := { security := { jwt := some { secret := some "s3cr3t" } } }

theorem served_of_no_problems_tokens :
    tokenConfig.problems (fun _ => false) = [] ∧ tokenConfig.security.IsShared ∧
      ∃ service, (openGateway bareHost tokenConfig : Startup Unit).result = .ok service := by
  have hvalid : tokenConfig.problems (fun _ => false) = [] := by decide +kernel
  have hshared : tokenConfig.security.IsShared := by
    intro jwt hjwt
    obtain rfl := Option.some.inj hjwt
    exact Option.some_ne_none _
  have hserved := served_of_no_problems bareHost hvalid hshared
  refine ⟨hvalid, hshared, ?_⟩
  cases hresult : (openGateway bareHost tokenConfig : Startup Unit).result with
  | ok service => exact ⟨service, rfl⟩
  | error failure =>
    cases (hserved.serving Unit failure).1 hresult with
    | header hname => exact absurd (fun hnone => nomatch hnone) hname
    | path _ hpath =>
      have hroute : Route.read? tokenConfig.server.path =
          some ⟨[.fixed ".~~devtunnel~", .fixed "debug"]⟩ := by
        simp +decide [tokenConfig, defaultPath, Route.read?, Route.split?, String.splitOn,
          String.splitOnAux]
      rw [hpath] at hroute
      cases hroute
    | socket _ _ _ hbind => cases hbind

/-- A secret, in a field with a blank in its name. -/
def blankConfig : Config :=
  { security := { secret := some "s3cr3t", secretHeader := "bad header" } }

/-- Nothing is wrong with such a field until the policy is set up. -/
theorem ofConfig_of_blank_in_header :
    blankConfig.problems (fun _ => false) = [] ∧ blankConfig.security.IsShared ∧
      Access.Policy.ofConfig bareHost.files blankConfig.security =
        .error (.configuration "invalid secret header name 'bad header'") := by
  have hshared : blankConfig.security.IsShared := by
    intro jwt hjwt
    cases hjwt
  have hname : HeaderName.ofString? "bad header" = none := by decide +kernel
  have hmake : Access.SharedSecret.make "bad header" "s3cr3t" =
      .error (.configuration "invalid secret header name 'bad header'") := by
    rw [Access.SharedSecret.make_of_ne_empty (by decide), hname]
    rfl
  refine ⟨by decide +kernel, hshared, ?_⟩
  rw [Access.Policy.ofConfig.eq_def]
  exact congrArg (Except.map .sharedSecret) hmake

/-- A path that opens a segment and does not close it. -/
def braceConfig : Config := { server := { path := "/\x7b" } }

/-- Nothing is wrong with such a path until the route is set up. -/
theorem openGateway_of_open_brace :
    braceConfig.problems (fun _ => false) = [] ∧
      (openGateway bareHost braceConfig : Startup Unit).result =
        .error (.setup (.path "/\x7b")) := by
  have hvalid : braceConfig.problems (fun _ => false) = [] := by decide +kernel
  have hshared : braceConfig.security.IsShared := by
    intro jwt hjwt
    cases hjwt
  have hpath : Route.read? braceConfig.server.path = none := by
    simp +decide [braceConfig, Route.read?, Route.split?, String.splitOn, String.splitOnAux]
  exact ⟨hvalid, openGateway_of_obstacle hvalid hshared (.path (fun _ h => absurd rfl h) hpath)⟩

end Command
end PollTunnel
