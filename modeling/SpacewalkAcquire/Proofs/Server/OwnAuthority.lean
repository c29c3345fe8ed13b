import SpacewalkAcquire.Proofs.Server.Accepted
import SpacewalkAcquire.Proofs.Url.HostPort

/-!
# URIs with the server's own authority

* `Server.serves_ownAuthority` : when a URI of the front end names the server, although its authority is written just as
  that of the server's address.

The address has a special scheme and the URI has not. So the one host is normalized and the other one is not, and only
the one port is left out where it is the default one.
-/

namespace SpacewalkAcquire.Server

variable {settings : Settings} {server : Server} {uri : Url} {scheme authority path : String}

/-- The authority of `base`, where `serverURL` is written with a host and a port. -/
theorem Accepted.read_hostPort (h : Accepted settings server) (hscheme : scheme = "http" ∨ scheme = "https")
    (hauthority : Url.IsHostPort authority.toList)
    (hsetting : settings.text? "serverURL" = some (scheme ++ "://" ++ authority ++ "/XMLRPC")) :
    ∃ a, server.base.authority = some a ∧ Host.readSpecial (Url.writtenHost authority.toList) = .ok a.host ∧
      a.port = (Url.writtenPort? authority.toList).filter fun p => Url.defaultPort? scheme ≠ some p := by
  obtain ⟨raw, hraw, hread, -⟩ := addressOf_eq_ok h.address
  have htext : raw = String.ofList (scheme.toList ++ "://".toList ++ authority.toList ++ "/XMLRPC".toList) := by
    obtain rfl := Option.some.inj (hraw.symm.trans hsetting)
    simp [← String.toList_inj]
  have hpath : Url.EndsAuthority "/XMLRPC".toList := by
    rintro _ ⟨⟩
    decide
  have hmem : scheme ∈ ["http", "https", "spacewalk"] := by
    rcases hscheme with rfl | rfl <;> decide
  rw [htext] at hread
  obtain ⟨-, a, ha, hhost, hport⟩ := Url.read_hostPort hmem hauthority hpath hread
  have hspecial : Url.isSpecial scheme = true := by
    rcases hscheme with rfl | rfl <;> rfl
  rw [hspecial] at hhost
  exact ⟨a, ha, hhost, hport⟩

/-- A URI of the front end whose authority is written just as that of the server's address names the server if and only
if the host is in brackets or written in its normal form, and no port is written that is the default one of the
address's scheme. -/
theorem serves_ownAuthority (hscheme : scheme = "http" ∨ scheme = "https")
    (hauthority : Url.IsHostPort authority.toList)
    (hpath : Url.EndsAuthority path.toList)
    (hsetting : settings.text? "serverURL" = some (scheme ++ "://" ++ authority ++ "/XMLRPC"))
    (hserver : ofSettings settings = .ok server) (huri : Url.read ("spacewalk://" ++ authority ++ path) = .ok uri) :
    server.serves uri = true ↔
      ((Url.writtenHost authority.toList).head? = some '[' ∨
        server.base.hostText? = some (String.ofList (Url.writtenHost authority.toList))) ∧
      ∀ port, Url.writtenPort? authority.toList = some port → Url.defaultPort? scheme ≠ some port := by
  obtain ⟨a, ha, hhost, hport⟩ := (ofSettings_eq_ok hserver).read_hostPort hscheme hauthority hsetting
  have htext : "spacewalk://" ++ authority ++ path =
      String.ofList ("spacewalk".toList ++ "://".toList ++ authority.toList ++ path.toList) := by
    simp [← String.toList_inj]
  rw [htext] at huri
  obtain ⟨-, a', ha', hhost', hport'⟩ := Url.read_hostPort (by decide) hauthority hpath huri
  have hnamed := Host.named_readSpecial hhost
  have hbase : server.base.hostText? = some a.host.text := (Url.hostText?_eq_some_iff ha hnamed.2).2 rfl
  have hhosts : uri.hostText? = server.base.hostText? ↔ (Url.writtenHost authority.toList).head? = some '[' ∨
      server.base.hostText? = some (String.ofList (Url.writtenHost authority.toList)) := by
    rw [hbase, Url.hostText?_eq_some_iff ha' hnamed.2, Option.some_inj]
    exact Host.text_read_eq_iff hhost hhost'
  have hports : uri.port? = server.base.port? ↔
      ∀ port, Url.writtenPort? authority.toList = some port → Url.defaultPort? scheme ≠ some port := by
    have hnone : Url.defaultPort? "spacewalk" = none := rfl
    rw [Url.port?, Url.port?, ha, ha', Option.bind_some, Option.bind_some, hport, hport', hnone]
    cases Url.writtenPort? authority.toList with
    | none => simp
    | some port => by_cases hdefault : Url.defaultPort? scheme = some port <;> simp [hdefault, Option.filter]
  rw [serves, Bool.and_eq_true, decide_eq_true_eq, decide_eq_true_eq, hhosts, hports]

/-- A host name in small letters, and a port that is the default one of the other scheme. -/
theorem serves_ownAuthority_port :
    let settings : Settings := .ofList [("serverURL", .text "http://sw-1.example.com:443/XMLRPC")]
    let authority : Authority := ⟨"", none, .name "sw-1.example.com", some 443⟩
    let server : Server :=
      ⟨⟨"http", some authority, .segments ["XMLRPC"], false, none, none⟩, false, [], standardSystemIdFile, none⟩
    let uri : Url := ⟨"spacewalk", some authority, .segments ["dists", "Release"], false, none, none⟩
    ofSettings settings = .ok server ∧ Url.read "spacewalk://sw-1.example.com:443/dists/Release" = .ok uri ∧
      server.serves uri = true := by
  intro settings authority server uri
  have hserver : ofSettings settings = .ok server := eq_ok_of_toOption (by decide +kernel)
  have huri : Url.read ("spacewalk://" ++ "sw-1.example.com:443" ++ "/dists/Release") = .ok uri :=
    eq_ok_of_toOption (by decide +kernel)
  have hsetting : settings.text? "serverURL" = some ("http" ++ "://" ++ "sw-1.example.com:443" ++ "/XMLRPC") := by
    decide +kernel
  have hpath : Url.EndsAuthority "/dists/Release".toList := by
    rintro _ ⟨⟩
    decide
  have hnormal : server.base.hostText? = some (String.ofList (Url.writtenHost "sw-1.example.com:443".toList)) := by
    decide +kernel
  have hport : Url.writtenPort? "sw-1.example.com:443".toList = some 443 := by decide +kernel
  refine ⟨hserver, huri, (serves_ownAuthority (.inl rfl) (by decide +kernel) hpath hsetting hserver huri).2
    ⟨.inr hnormal, fun port hwritten => ?_⟩⟩
  rw [hport, Option.some_inj] at hwritten
  rw [← hwritten]
  decide

/-- The server does not know itself by the default port of its scheme, nor by a name in capitals, where address and URI
are written with both alike. -/
theorem serves_ownAuthority_refused :
    let server : Server :=
      ⟨⟨"http", some ⟨"", none, .name "h", none⟩, .segments ["XMLRPC"], false, none, none⟩, false, [],
        standardSystemIdFile, none⟩
    let uri (host : String) (port : Option UInt16) : Url :=
      ⟨"spacewalk", some ⟨"", none, .name host, port⟩, .segments ["x"], false, none, none⟩
    (ofSettings (.ofList [("serverURL", .text "http://h:80/XMLRPC")]) = .ok server ∧
      Url.read "spacewalk://h:80/x" = .ok (uri "h" (some 80)) ∧ server.serves (uri "h" (some 80)) = false) ∧
    (ofSettings (.ofList [("serverURL", .text "http://H/XMLRPC")]) = .ok server ∧
      Url.read "spacewalk://H/x" = .ok (uri "H" none) ∧ server.serves (uri "H" none) = false) := by
  intro server uri
  have hserver80 : ofSettings (.ofList [("serverURL", .text "http://h:80/XMLRPC")]) = .ok server :=
    eq_ok_of_toOption (by decide +kernel)
  have huri80 : Url.read "spacewalk://h:80/x" = .ok (uri "h" (some 80)) := eq_ok_of_toOption (by decide +kernel)
  have hserverH : ofSettings (.ofList [("serverURL", .text "http://H/XMLRPC")]) = .ok server :=
    eq_ok_of_toOption (by decide +kernel)
  have huriH : Url.read "spacewalk://H/x" = .ok (uri "H" none) := eq_ok_of_toOption (by decide +kernel)
  exact ⟨⟨hserver80, huri80, by decide +kernel⟩, ⟨hserverH, huriH, by decide +kernel⟩⟩

end SpacewalkAcquire.Server
