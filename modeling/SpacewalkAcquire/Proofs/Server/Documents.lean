import SpacewalkAcquire.Proofs.DocumentPath
import SpacewalkAcquire.Proofs.Server.Accepted

/-!
# Where documents are asked for

The path of a document is read three times by different rules: as the path of the front end's URI, which only slashes
divide; as a text in which parts are exchanged; and as the path of an HTTP URL, which backslashes divide, too.

* `DocumentPath.staysBelow_of_read` : the path of a URI without backslashes does not lead above its root;
* `DocumentPath.read_backendRoot` : what is read behind the root of the server's paths, from that root on;
* `DocumentPath.backendRoot_prefix_iff` : the written path starts with the root if its last segment is behind the
  root's;
* `Server.contentAddress_confined` : documents under the front end's root are asked for under the server's root if and
  only if the pieces of the path lead there, and so unless backslashes in the path lead above it.
-/

namespace SpacewalkAcquire

namespace DocumentPath

variable {uri : Url} {rest : List Char}

theorem segments_of_read {s : String} (h : Url.read s = .ok uri) (hscheme : uri.scheme = "spacewalk")
    (hauthority : uri.authority ≠ none) :
    ∃ segments, uri.path = .segments segments ∧ Path.Clean (Url.isSpecial uri.scheme) segments := by
  have hfile : uri.scheme ≠ "file" := by rw [hscheme]; decide
  rcases Url.read_hierarchy_or_bare h hfile with ⟨cs, a, rest, -, hu⟩ | ⟨-, hnone⟩
  · exact ⟨_, congrArg Url.path hu, Path.clean_read _ _⟩
  · exact absurd hnone hauthority

variable {special : Bool} {segments : List String}

theorem counts_of_mem_text (hclean : Path.Clean special segments)
    (hpath : (UrlPath.segments segments).text.toList = frontRoot.toList ++ rest) :
    ∀ c ∈ rest, Url.isIgnored c = false := by
  intro c hc
  have hslash : Url.isIgnored '/' = false := rfl
  have hcoded : ∀ d ∈ ['\t', '\n', '\r'], ¬ Percent.IsCoded Percent.path d := List.all_iff_forall_prop.1 (by decide)
  have hm : c ∈ (UrlPath.segments segments).text.toList := by
    rw [hpath]
    exact List.mem_append_right _ hc
  rcases hclean.mem_text hm with rfl | ⟨hpathChar, -⟩
  · exact hslash
  · have hnot : c ∉ ['\t', '\n', '\r'] := fun hd => hcoded c hd hpathChar
    simpa [Url.isIgnored, and_assoc] using hnot

/-- Where no backslash divides further, the pieces of a path that was read are its segments, and none of them is a
dot. -/
theorem staysBelow_of_read (hclean : Path.Clean special segments)
    (hpath : (UrlPath.segments segments).text.toList = frontRoot.toList ++ rest) (hbackslash : '\\' ∉ rest) :
    Path.staysBelow 0 (Path.divided rest) = true := by
  have hdivided : Path.divided rest = Text.splitOn '/' rest := by
    have hsame : Path.slashes true rest = rest := by
      refine (List.map_congr_left fun c hc => ?_).trans (List.map_id _)
      rw [if_neg (by rintro hb; exact hbackslash (beq_iff_eq.1 hb ▸ hc))]
      rfl
    rw [Path.divided, hsame]
  have hsplit : Text.splitOn '/' (frontRoot.toList ++ rest) = [[], "dists".toList] ++ Text.splitOn '/' rest :=
    Text.splitOn_append_cons "/dists".toList rest
  have hpieces := (congrArg (Text.splitOn '/') hpath).symm.trans (Path.splitOn_text hclean)
  rw [hsplit] at hpieces
  rw [hdivided]
  refine Path.staysBelow_of_no_dots (fun piece hpiece => ?_) 0
  have hm : piece ∈ segments.map String.toList := by
    rw [← (List.cons.inj hpieces).2]
    exact List.mem_cons_of_mem _ hpiece
  obtain ⟨segment, hsegment, rfl⟩ := List.mem_map.1 hm
  exact (hclean segment hsegment).2.1

def backendSegments : List String := ["XMLRPC", "GET-REQ", "dists"]

theorem pieces_backendRoot (rest : List Char) :
    Path.pieces (Path.slashes true (backendRoot.toList ++ rest)) =
      backendSegments.map String.toList ++ Path.divided rest := by
  have hroot : Path.slashes true backendRoot.toList = '/' :: ("XMLRPC/GET-REQ/dists".toList ++ ['/']) := by decide
  have hslashes : Path.slashes true (backendRoot.toList ++ rest) =
      '/' :: ("XMLRPC/GET-REQ/dists".toList ++ '/' :: Path.slashes true rest) := by
    have happend : Path.slashes true (backendRoot.toList ++ rest) =
        Path.slashes true backendRoot.toList ++ Path.slashes true rest := List.map_append
    rw [happend, hroot, List.cons_append, List.append_assoc]
    rfl
  rw [hslashes, Path.pieces, Text.splitOn_append_cons]
  rfl

/-- Behind `backendRoot`, a path is read on from `backendSegments`. -/
theorem read_backendRoot (hcounts : ∀ c ∈ rest, Url.isIgnored c = false) :
    Path.read true (Url.significant (backendRoot.toList ++ rest)) =
      Path.extend backendSegments (Path.divided rest) := by
  have hsignificant : Url.significant (backendRoot.toList ++ rest) = backendRoot.toList ++ rest := by
    have hroot : ∀ c ∈ backendRoot.toList, (!Url.isIgnored c) = true := List.all_iff_forall_prop.1 (by decide)
    refine List.filter_eq_self.2 fun c hc => ?_
    rcases List.mem_append.1 hc with hc | hc
    · exact hroot c hc
    · rw [hcounts c hc]
      rfl
  have hne : Path.divided rest ≠ [] := Text.splitOn_ne_nil _ _
  have hroot : Path.add (Path.add (Path.add [] "XMLRPC".toList false) "GET-REQ".toList false) "dists".toList false =
      backendSegments := by decide +kernel
  rw [hsignificant, Path.read, if_neg (by simp [backendRoot]), pieces_backendRoot]
  simp only [backendSegments, List.map_cons, List.map_nil, List.cons_append, List.nil_append]
  rw [Path.extend_cons (by simp), Path.extend_cons (by simp), Path.extend_cons hne, hroot]
  rfl

/-- A written path starts with `backendRoot` if and only if its segments start with those of the root, and at least one
more is behind them. -/
theorem backendRoot_prefix_iff (hclean : Path.Clean special segments) :
    backendRoot.toList <+: (UrlPath.segments segments).text.toList ↔ backendSegments <+: segments.dropLast := by
  constructor
  · rintro ⟨rest, hrest⟩
    have hsplit : Text.splitOn '/' (backendRoot.toList ++ rest) =
        ([] :: backendSegments.map String.toList) ++ Text.splitOn '/' rest :=
      Text.splitOn_append_cons "/XMLRPC/GET-REQ/dists".toList rest
    rw [hrest, Path.splitOn_text hclean, List.cons_append, List.cons.injEq] at hsplit
    obtain ⟨root, behind, rfl, hroot, hbehind⟩ := List.map_eq_append_iff.1 hsplit.2
    obtain rfl := List.map_injective_iff.2 (fun _ _ => String.toList_injective) hroot
    have hne : behind ≠ [] := by
      rintro rfl
      exact Text.splitOn_ne_nil _ _ hbehind.symm
    rw [List.dropLast_append_of_ne_nil hne]
    exact List.prefix_append _ _
  · rintro ⟨more, hmore⟩
    have hne : segments ≠ [] := by
      rintro rfl
      cases hmore
    rw [← List.dropLast_append_getLast hne, ← hmore]
    exact ⟨(UrlPath.segments (more ++ [segments.getLast hne])).text.toList.tail, by
      cases more <;> simp [backendRoot, backendSegments, UrlPath.text, String.toList_join]⟩

/-- Pieces that stay below lead from `backendSegments` to a place behind them. -/
theorem backendSegments_prefix (hbelow : Path.staysBelow 0 (Path.divided rest) = true) :
    backendSegments <+: (Path.extend backendSegments (Path.divided rest)).dropLast := by
  have hne : Path.divided rest ≠ [] := Text.splitOn_ne_nil _ _
  obtain ⟨below, hread, hne'⟩ :=
    Path.extend_below backendSegments hne (Nat.zero_le ([] : List String).length) hbelow
  rw [List.append_nil] at hread
  rw [hread, List.dropLast_append_of_ne_nil hne']
  exact List.prefix_append _ _

end DocumentPath

namespace Server

open DocumentPath (frontRoot backendRoot backendSegments toBackend IsPlainLabel)

variable {settings : Settings} {server : Server} {uri : Url}

theorem Accepted.authority_of_serves (h : Accepted settings server) (hserves : server.serves uri = true) :
    uri.authority ≠ none := by
  intro hnone
  obtain ⟨host, hhost, -⟩ := h.onNetwork.exists_hostText
  rw [serves, Bool.and_eq_true, decide_eq_true_eq, hhost, Url.hostText?, Url.host?, hnone] at hserves
  cases hserves.1

/-- The address of a document under `frontRoot`: there is one, and it lies under `backendRoot` if and only if the pieces
of the server's path, walked from that root on, end behind it. So it does if no piece of the front end's path leads
above `frontRoot`, be it that slashes or that backslashes divide the path; and without backslashes that is always so. -/
theorem contentAddress_confined (hserver : ofSettings settings = .ok server) {label : String}
    (hlabel : IsPlainLabel label) {s : String} (huri : Url.read s = .ok uri) (hscheme : uri.scheme = "spacewalk")
    (hserves : server.serves uri = true) {rest : List Char} (hpath : uri.pathText.toList = frontRoot.toList ++ rest) :
    ∃ u, server.contentAddress (toBackend uri.pathText label) = .ok u ∧
      (∃ rest', toBackend uri.pathText label = String.ofList (backendRoot.toList ++ rest') ∧
        (backendRoot.toList <+: u.pathText.toList ↔
          backendSegments <+: (Path.extend backendSegments (Path.divided rest')).dropLast)) ∧
      (Path.staysBelow 0 (Path.divided rest) = true → backendRoot.toList <+: u.pathText.toList) ∧
      ('\\' ∉ rest → backendRoot.toList <+: u.pathText.toList) := by
  have haccepted := ofSettings_eq_ok hserver
  obtain ⟨site, hnetwork, hsite, haddress⟩ := haccepted.exists_site
  obtain ⟨segments, hsegments, hclean⟩ :=
    DocumentPath.segments_of_read huri hscheme (haccepted.authority_of_serves hserves)
  have hport : (Url.defaultPort? site.scheme).isSome = true := by
    rw [hsite.scheme]
    cases server.useTls <;> rfl
  have hwritten : (UrlPath.segments segments).text.toList = frontRoot.toList ++ rest := by
    rw [← hsegments]
    exact hpath
  obtain ⟨rest', hbackend, hcounts, hsame⟩ := DocumentPath.Under.toBackend
    ⟨hpath, DocumentPath.counts_of_mem_text hclean hwritten⟩ hlabel
  have hexact : backendRoot.toList <+: ((site.withPath (toBackend uri.pathText label)).withoutTail).pathText.toList ↔
      backendSegments <+: (Path.extend backendSegments (Path.divided rest')).dropLast := by
    rw [hnetwork.withoutTail_withPath hport, hbackend, String.toList_ofList, ← DocumentPath.read_backendRoot hcounts]
    exact DocumentPath.backendRoot_prefix_iff (Path.clean_read true _)
  have hbelow (h : Path.staysBelow 0 (Path.divided rest) = true) :
      backendRoot.toList <+: ((site.withPath (toBackend uri.pathText label)).withoutTail).pathText.toList :=
    hexact.2 (DocumentPath.backendSegments_prefix (hsame.trans h))
  exact ⟨_, haddress _, ⟨rest', hbackend, hexact⟩, hbelow,
    fun h => hbelow (DocumentPath.staysBelow_of_read hclean hwritten h)⟩

/-- Backslashes that lead up and down again below the root. -/
theorem contentAddress_confined_backslash :
    let settings : Settings := .ofList [("serverURL", .text "http://h/XMLRPC")]
    let server : Server :=
      ⟨⟨"http", some ⟨"", none, .name "h", none⟩, .segments ["XMLRPC"], false, none, none⟩, false, [],
        standardSystemIdFile, none⟩
    let uri : Url :=
      ⟨"spacewalk", some ⟨"", none, .name "h", none⟩, .segments ["dists", "a\\..\\channels:", "main", "Release"], false,
        none, none⟩
    ofSettings settings = .ok server ∧ Url.read "spacewalk://h/dists/a\\..\\channels:/main/Release" = .ok uri ∧
      Path.staysBelow 0 (Path.divided "a\\..\\channels:/main/Release".toList) = true ∧
      ∃ u, server.contentAddress (toBackend uri.pathText "base") = .ok u ∧
        (∃ rest', toBackend uri.pathText "base" = String.ofList (backendRoot.toList ++ rest') ∧
          (backendRoot.toList <+: u.pathText.toList ↔
            backendSegments <+: (Path.extend backendSegments (Path.divided rest')).dropLast)) ∧
        (Path.staysBelow 0 (Path.divided "a\\..\\channels:/main/Release".toList) = true →
          backendRoot.toList <+: u.pathText.toList) ∧
        ('\\' ∉ "a\\..\\channels:/main/Release".toList → backendRoot.toList <+: u.pathText.toList) := by
  intro settings server uri
  have hserver : ofSettings settings = .ok server := eq_ok_of_toOption (by decide +kernel)
  have huri : Url.read "spacewalk://h/dists/a\\..\\channels:/main/Release" = .ok uri :=
    eq_ok_of_toOption (by decide +kernel)
  exact ⟨hserver, huri, by decide +kernel,
    contentAddress_confined hserver (by decide +kernel) huri rfl (by decide +kernel) (by decide +kernel)⟩

/-- Without the condition the root can be left: the backslashes lead three segments up, out of all of the root. -/
theorem contentAddress_unconfined :
    ¬ ∀ (settings : Settings) (server : Server) (label s : String) (uri : Url),
      ofSettings settings = .ok server → IsPlainLabel label → Url.read s = .ok uri → uri.scheme = "spacewalk" →
      server.serves uri = true → frontRoot.toList <+: uri.pathText.toList →
      ∀ u, server.contentAddress (toBackend uri.pathText label) = .ok u → backendRoot.toList <+: u.pathText.toList := by
  intro h
  let base : Url := ⟨"http", some ⟨"", none, .name "h", none⟩, .segments ["XMLRPC"], false, none, none⟩
  let server : Server := ⟨base, false, [], standardSystemIdFile, none⟩
  let uri : Url :=
    ⟨"spacewalk", some ⟨"", none, .name "h", none⟩, .segments ["dists", "..\\..\\..\\x"], false, none, none⟩
  have hserver : ofSettings (.ofList [("serverURL", .text "http://h/XMLRPC")]) = .ok server :=
    eq_ok_of_toOption (by decide +kernel)
  have huri : Url.read "spacewalk://h/dists/..\\..\\..\\x" = .ok uri := eq_ok_of_toOption (by decide +kernel)
  have haddress : server.contentAddress (toBackend uri.pathText "base") = .ok { base with path := .segments ["x"] } :=
    eq_ok_of_toOption (by decide +kernel)
  have hprefix := h _ server "base" _ uri hserver (by decide +kernel) huri rfl (by decide +kernel) (by decide +kernel)
    _ haddress
  exact absurd hprefix (by decide +kernel)

end Server

end SpacewalkAcquire
