import SpacewalkAcquire.Proofs.Server.Accepted
import SpacewalkAcquire.Proofs.Settings.Lines

/-!
# File paths in a settings file

* `Server.HasPaths` : settings that hold an address, certificates and a system id file; `exists_read_of_paths` reads
  them from a file with one line for each;
* `Server.HasPaths.ofSettings_text`, `ofSettings_integer`, `ofSettings_item` : the configuration that they describe;
* `Server.ofText_filePaths` : when its paths are those that the file has.

A value is read before it is known to be a path. Where it spells a number, a certificate gets the path that the number
is written as, and the system id gets none. A semicolon behind the value keeps it as it is written.
-/

namespace SpacewalkAcquire.Server

variable {settings : Settings} {base : Url} {content address url certificates systemId : String}

/-- An address, a value for certificates and one for the system id, and nothing else that a configuration depends on. -/
structure HasPaths (settings : Settings) (base : Url) (certificates systemId : Setting) : Prop where
  address : addressOf settings = .ok base
  certificates : settings.get? "sslCACert" = some certificates
  systemId : settings.get? "systemIdPath" = some systemId
  flag : settings.flag "useNoSSLForPackages" = false
  timeout : settings.integer? "timeout" = none

theorem exists_read_of_paths (haddress : Settings.Line.read address.toList = .binding "serverURL" (.text url))
    (hurl : Url.read url = .ok base) (hscheme : base.scheme = "http" ∨ base.scheme = "https")
    (h : Settings.HasLines content [address, "sslCACert=" ++ certificates, "systemIdPath=" ++ systemId]) :
    ∃ settings, Settings.read content = .ok settings ∧
      HasPaths settings base (.read certificates.toList) (.read systemId.toList) := by
  have hcertificates := Settings.Line.read_keyed "sslCACert" certificates (by decide) (by decide) (by decide)
  have hsystemId := Settings.Line.read_keyed "systemIdPath" systemId (by decide) (by decide) (by decide)
  let bindings : List (String × Setting) :=
    [("serverURL", .text url), ("sslCACert", .read certificates.toList), ("systemIdPath", .read systemId.toList)]
  have hkeys : bindings.map Prod.fst = ["serverURL", "sslCACert", "systemIdPath"] := rfl
  obtain ⟨settings, hread, hget⟩ := Settings.exists_read_of_hasLines h
    (by rw [List.map_cons, haddress]; exact congrArg₂ (fun a b => [_, a, b]) hcertificates hsystemId)
    (show (bindings.map Prod.fst).Nodup by rw [hkeys]; decide)
  have hnone (key : String) (hkey : key ∉ bindings.map Prod.fst) : settings.get? key = none :=
    Option.eq_none_iff_forall_ne_some.2 fun value hvalue =>
      hkey (List.mem_map_of_mem (f := Prod.fst) ((hget key value).1 hvalue))
  have hraw : settings.get? "serverURL" = some (.text url) := (hget _ _).2 List.mem_cons_self
  have hfilled : url.isEmpty = false := by
    refine Bool.eq_false_iff.2 fun hempty => ?_
    have hrefused : (Url.read "").toOption = none := by decide +kernel
    rw [String.isEmpty_iff] at hempty
    rw [hempty] at hurl
    rw [hurl] at hrefused
    cases hrefused
  refine ⟨settings, hread, addressOf_of_text ?_ hurl hscheme, (hget _ _).2 ?_, (hget _ _).2 ?_, ?_, ?_⟩
  · rw [Settings.text?, hraw]
    dsimp only
    rw [hfilled]
    rfl
  · exact List.mem_cons_of_mem _ List.mem_cons_self
  · exact List.mem_cons_of_mem _ (List.mem_cons_of_mem _ List.mem_cons_self)
  · rw [Settings.flag, hnone _ (by rw [hkeys]; decide)]
  · rw [Settings.integer?, hnone _ (by rw [hkeys]; decide)]

namespace HasPaths

variable {settings' : Settings} {server : Server} {x y : Setting} {path : String} {n : Int}

/-- The configuration of such settings, if `sslCACert` has a value. -/
theorem ofSettings_eq (h : HasPaths settings base x y) (hcertificates : settings.list "sslCACert" ≠ []) :
    ofSettings settings = .ok ⟨base, base.scheme = "https", settings.list "sslCACert",
      (settings.text? "systemIdPath").getD standardSystemIdFile, none⟩ := by
  have haddress : addressOf settings = pure base := h.address
  have hsome : (settings.list "sslCACert").isEmpty = false := by rwa [List.isEmpty_eq_false_iff]
  unfold ofSettings
  rw [haddress, pure_bind]
  dsimp only
  rw [hsome, h.flag, h.timeout, Bool.and_false, Bool.not_false, Bool.and_true]
  rfl

theorem ofSettings_text (h : HasPaths settings base (.text path) (.text path)) (hpath : path ≠ "") :
    ofSettings settings = .ok ⟨base, base.scheme = "https", [path], path, none⟩ := by
  have hfilled : path.isEmpty = false := by rwa [Bool.eq_false_iff, ne_eq, String.isEmpty_iff]
  have hcertificates : settings.list "sslCACert" = [path] := by
    rw [Settings.list, h.certificates]
    dsimp only
    rw [hfilled]
    rfl
  have hsystemId : settings.text? "systemIdPath" = some path := by
    rw [Settings.text?, h.systemId]
    dsimp only
    rw [hfilled]
    rfl
  rw [h.ofSettings_eq (by rw [hcertificates]; exact List.cons_ne_nil _ _), hcertificates, hsystemId, Option.getD_some]

/-- A number is turned into the path of a certificate, but not into that of the system id. -/
theorem ofSettings_integer (h : HasPaths settings base (.integer n) (.integer n)) :
    ofSettings settings = .ok ⟨base, base.scheme = "https", [toString n], standardSystemIdFile, none⟩ := by
  have hcertificates : settings.list "sslCACert" = [toString n] := by rw [Settings.list, h.certificates]
  have hsystemId : settings.text? "systemIdPath" = none := by rw [Settings.text?, h.systemId]
  rw [h.ofSettings_eq (by rw [hcertificates]; exact List.cons_ne_nil _ _), hcertificates, hsystemId, Option.getD_none]

/-- A list of one certificate changes `certificateFiles` only. -/
theorem ofSettings_item (h : HasPaths settings base x y) (hserver : ofSettings settings = .ok server)
    (h' : HasPaths settings' base (.list [path]) y) :
    ofSettings settings' = .ok { server with certificateFiles := [path] } := by
  have hcertificates : settings'.list "sslCACert" = [path] := by rw [Settings.list, h'.certificates]
  have hsystemId : settings'.text? "systemIdPath" = settings.text? "systemIdPath" := by
    rw [Settings.text?, Settings.text?, h.systemId, h'.systemId]
  have haddress : addressOf settings = pure base := h.address
  rw [h'.ofSettings_eq (by rw [hcertificates]; exact List.cons_ne_nil _ _), hcertificates, hsystemId]
  unfold ofSettings at hserver
  rw [haddress, pure_bind] at hserver
  dsimp only at hserver
  split at hserver
  · cases hserver
  · rw [h.flag, h.timeout, Bool.not_false, Bool.and_true] at hserver
    cases hserver
    rfl

end HasPaths

theorem ofText_of_read {file : String} (h : Settings.read content = .ok settings) :
    ofText file content = ofSettings settings := by
  rw [ofText, h]

/-- A file names its certificate by a value without a semicolon, and its system id by the same value. The certificate's
path is this value unless it spells a number in another way than the number is written, and the path of the system id is
this value unless it spells a number. With a semicolon behind it the certificate's path always is this value. -/
theorem ofText_filePaths {file content' v : String}
    (haddress : Settings.Line.read address.toList = .binding "serverURL" (.text url)) (hurl : Url.read url = .ok base)
    (hscheme : base.scheme = "http" ∨ base.scheme = "https") (hsingle : ';' ∉ v.toList) (hcounts : Text.trim v ≠ "")
    (hlines : Settings.HasLines content [address, "sslCACert=" ++ v, "systemIdPath=" ++ v])
    (hclosed : Settings.HasLines content' [address, "sslCACert=" ++ (v ++ ";"), "systemIdPath=" ++ v]) :
    ∃ server, ofText file content = .ok server ∧
      ofText file content' = .ok { server with certificateFiles := [Text.trim v] } ∧
      (server.certificateFiles = [Text.trim v] ↔
        ∀ n, Text.SpellsInteger (Text.trim v).toList n → toString n = Text.trim v) ∧
      (server.systemIdFile = Text.trim v ↔ ∀ n, ¬ Text.SpellsInteger (Text.trim v).toList n) ∧
      ∀ n, Text.SpellsInteger (Text.trim v).toList n →
        server.certificateFiles = [toString n] ∧ server.systemIdFile = standardSystemIdFile := by
  obtain ⟨settings, hread, hpaths⟩ := exists_read_of_paths haddress hurl hscheme hlines
  obtain ⟨settings', hread', hpaths'⟩ := exists_read_of_paths haddress hurl hscheme hclosed
  rw [Setting.read_closed hsingle hcounts] at hpaths'
  rw [ofText_of_read hread, ofText_of_read hread']
  rcases Setting.read_single hsingle with ⟨n, hn, hvalue⟩ | ⟨hnumberless, hvalue⟩
  case inl =>
    rw [hvalue] at hpaths hpaths'
    have hstandard : standardSystemIdFile ≠ Text.trim v := by
      intro hsame
      have hnone : Text.readInteger? standardSystemIdFile.toList = none := by decide +kernel
      rw [hsame, Text.readInteger?_eq_some_iff.2 hn] at hnone
      cases hnone
    refine ⟨_, hpaths.ofSettings_integer, hpaths.ofSettings_item hpaths.ofSettings_integer hpaths', ?_, ?_, ?_⟩
    · rw [List.cons.injEq, and_iff_left rfl]
      exact ⟨fun h m hm => by rw [hm.eq hn, h], fun h => h n hn⟩
    · exact ⟨fun h => absurd h hstandard, fun h => absurd hn (h n)⟩
    · intro m hm
      rw [hm.eq hn]
      exact ⟨rfl, rfl⟩
  case inr =>
    rw [hvalue] at hpaths hpaths'
    have hserver := hpaths.ofSettings_text hcounts
    exact ⟨_, hserver, hpaths.ofSettings_item hserver hpaths', ⟨fun _ n hn => absurd hn (hnumberless n), fun _ => rfl⟩,
      ⟨fun _ => hnumberless, fun _ => rfl⟩, fun n hn => absurd hn (hnumberless n)⟩

/-- A path with white space and with the marks of settings, lines in another order, a comment and carriage returns. -/
theorem ofText_filePaths_marks :
    let path : String := "/my ca/#1 [old]=x.pem"
    let front : String := "systemIdPath= /my ca/#1 [old]=x.pem\r\n# keys\r\nserverURL=http://h/XMLRPC\r\n"
    ∃ server, ofText "up2date" (front ++ "sslCACert= /my ca/#1 [old]=x.pem") = .ok server ∧
      ofText "up2date" (front ++ "sslCACert= /my ca/#1 [old]=x.pem;") = .ok server ∧
      server.certificateFiles = [path] ∧ server.systemIdFile = path := by
  intro path front
  have haddress : Settings.Line.read "serverURL=http://h/XMLRPC".toList =
      .binding "serverURL" (.text "http://h/XMLRPC") := by decide +kernel
  have hurl : Url.read "http://h/XMLRPC" =
      .ok ⟨"http", some ⟨"", none, .name "h", none⟩, .segments ["XMLRPC"], false, none, none⟩ :=
    eq_ok_of_toOption (by decide +kernel)
  have hignored : ∀ line ∈ ["# keys".toList], Settings.Ignored line :=
    List.forall_mem_singleton.2 (.inr (.inl rfl))
  have hlines : Settings.HasLines (front ++ "sslCACert= /my ca/#1 [old]=x.pem")
      ["serverURL=http://h/XMLRPC", "sslCACert=" ++ (" " ++ path), "systemIdPath=" ++ (" " ++ path)] :=
    ⟨_, hignored, by decide +kernel⟩
  have hclosed : Settings.HasLines (front ++ "sslCACert= /my ca/#1 [old]=x.pem;")
      ["serverURL=http://h/XMLRPC", "sslCACert=" ++ (" " ++ path ++ ";"), "systemIdPath=" ++ (" " ++ path)] :=
    ⟨_, hignored, by decide +kernel⟩
  have htrim : Text.trim (" " ++ path) = path := by decide +kernel
  have hnumberless (n : Int) : ¬ Text.SpellsInteger path.toList n := by
    have hnone : Text.readInteger? path.toList = none := by decide +kernel
    rw [← Text.readInteger?_eq_some_iff, hnone]
    exact nofun
  obtain ⟨server, hserver, hsame, hcertificates, hsystemId, -⟩ :=
    ofText_filePaths haddress hurl (.inl rfl) (by decide +kernel) (by rw [htrim]; decide) hlines hclosed
  rw [htrim] at hsame hcertificates hsystemId
  have hpath := hcertificates.2 fun n hn => absurd hn (hnumberless n)
  refine ⟨server, hserver, ?_, hpath, hsystemId.2 hnumberless⟩
  rw [hsame, ← hpath]

/-- A path of digits is not taken as it is written: the certificate's path loses its zeros, and the system id is looked
for at the standard place. With a semicolon the certificate's path is as written. -/
theorem ofText_filePaths_digits :
    let base : Url := ⟨"http", some ⟨"", none, .name "h", none⟩, .segments ["XMLRPC"], false, none, none⟩
    let server (certificate : String) : Server := ⟨base, false, [certificate], standardSystemIdFile, none⟩
    let content (mark : String) : String :=
      "serverURL=http://h/XMLRPC\nsslCACert=007" ++ mark ++ "\nsystemIdPath=007\n"
    Settings.HasLines (content "") ["serverURL=http://h/XMLRPC", "sslCACert=" ++ "007", "systemIdPath=" ++ "007"] ∧
      Url.read "http://h/XMLRPC" = .ok base ∧ ';' ∉ "007".toList ∧ Text.trim "007" = "007" ∧
      ofText "up2date" (content "") = .ok (server "7") ∧ (server "7").certificateFiles ≠ ["007"] ∧
      (server "7").systemIdFile ≠ "007" ∧ ofText "up2date" (content ";") = .ok (server "007") := by
  intro base server content
  have hlines : Settings.HasLines (content "")
      ["serverURL=http://h/XMLRPC", "sslCACert=" ++ "007", "systemIdPath=" ++ "007"] :=
    ⟨[[]], List.forall_mem_singleton.2 (.inl rfl), by decide +kernel⟩
  have hurl : Url.read "http://h/XMLRPC" = .ok base := eq_ok_of_toOption (by decide +kernel)
  exact ⟨hlines, hurl, by decide, by decide +kernel, eq_ok_of_toOption (by decide +kernel), by decide, by decide,
    eq_ok_of_toOption (by decide +kernel)⟩

end SpacewalkAcquire.Server
