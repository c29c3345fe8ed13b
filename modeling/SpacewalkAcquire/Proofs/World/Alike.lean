import SpacewalkAcquire.Proofs.Effects.Program
import SpacewalkAcquire.Proofs.Way
import SpacewalkAcquire.Proofs.World

/-!
# Worlds that are alike

* `World.Steady` : the server answers each request by itself, and the pipe takes everything;
* `World.Alike w₀ w` : `w` is steady and has the server of `w₀`; its files may be others;
* `Correspondence.alike w₀ F` : the same values from worlds that are alike and whose files are related by `F`;
* `alike_queries`, `alike_exchange`, `alike_changes` : what depends on the files, on nothing of them, and on the way
  to one file alone;
* `send_alike` : what is sent is taken.
-/

namespace SpacewalkAcquire

namespace World

/-- The server answers each request by itself, and the pipe takes everything. -/
structure Steady (w : World) : Prop where
  server : ∀ earlier request, w.server earlier request = w.server [] request
  room : w.outbox.room = none
  failing : w.outbox.failing = []

/-- `w` is steady and has the server of `w₀`; its files may be others. -/
structure Alike (w₀ w : World) : Prop where
  server : w.server = w₀.server
  certificateFault : w.certificateFault = w₀.certificateFault
  steady : w.Steady

variable {w₀ w : World}

theorem Steady.alike (h : w.Steady) : Alike w w := ⟨rfl, rfl, h⟩

theorem Alike.change {w' : World} (h : Alike w₀ w) (hserver : w'.server = w.server)
    (hfault : w'.certificateFault = w.certificateFault) (hroom : w'.outbox.room = none)
    (hfailing : w'.outbox.failing = []) : Alike w₀ w' := by
  refine ⟨hserver.trans h.server, hfault.trans h.certificateFault, fun earlier request => ?_, hroom, hfailing⟩
  rw [hserver]
  exact h.steady.server earlier request

theorem Alike.withFiles (h : Alike w₀ w) (files : FileTree) : Alike w₀ { w with files := files } :=
  h.change rfl rfl h.steady.room h.steady.failing

/-- `exchange` gives the answer of `w₀.server`, whatever that was asked before. -/
theorem exchange_alike (h : Alike w₀ w) (request : Http.Request) :
    (w.exchange request).1 = w₀.server [] request ∧ Alike w₀ (w.exchange request).2 := by
  have hanswer : w.server w.requests request = w₀.server [] request := by rw [h.steady.server, h.server]
  unfold World.exchange
  rw [hanswer]
  cases w₀.server [] request with
  | unreachable why => exact ⟨rfl, h⟩
  | broken why => exact ⟨rfl, h.change rfl rfl h.steady.room h.steady.failing⟩
  | reply reply => exact ⟨rfl, h.change rfl rfl h.steady.room h.steady.failing⟩

theorem send_steady (h : w.Steady) (message : Message) :
    environment.send message w = (.ok (), { w with outbox := { w.outbox with
      written := w.outbox.written ++ Text.toUtf8 message.wire, flushes := w.outbox.flushes + 1 } }) := by
  obtain ⟨files, fault, server, requests, written, room, flushes, failing⟩ := w
  obtain ⟨-, hroom, hfailing⟩ := h
  dsimp only at hroom hfailing
  subst hroom hfailing
  rfl

theorem send_alike (h : Alike w₀ w) (message : Message) :
    (environment.send message w).1 = .ok () ∧ Alike w₀ (environment.send message w).2 ∧
      (environment.send message w).2.files = w.files := by
  rw [send_steady h.steady]
  exact ⟨rfl, h.change rfl rfl h.steady.room h.steady.failing, rfl⟩

end World

namespace Correspondence

open World

/-- The same values from worlds that are alike and whose files are related by `F`, and so they are afterwards. -/
def alike (w₀ : World) (F : FileTree → FileTree → Prop) : Correspondence (StateM World) (StateM World) where
  Rel x y := ∀ w w', Alike w₀ w → Alike w₀ w' → F w.files w'.files →
    (x.run w).1 = (y.run w').1 ∧ Alike w₀ (x.run w).2 ∧ Alike w₀ (y.run w').2 ∧ F (x.run w).2.files (y.run w').2.files
  pure _ _ _ h h' hF := ⟨rfl, h, h', hF⟩
  bind {α β x y f g} hx hf w w' h h' hF := by
    obtain ⟨hvalue, halike, halike', hfiles⟩ := hx w w' h h' hF
    have hrest := hf (x.run w).1 (x.run w).2 (y.run w').2 halike halike' hfiles
    have hx : (x >>= f).run w = (f (x.run w).1).run (x.run w).2 := rfl
    have hy : (y >>= g).run w' = (g (x.run w).1).run (y.run w').2 := by
      rw [hvalue]
      rfl
    rw [hx, hy]
    exact hrest

variable (w₀ : World) (F : FileTree → FileTree → Prop)

theorem alike_exchange (connection : Connection) (request : Http.Request) :
    (alike w₀ F).Rel (environment.exchange connection request) (environment.exchange connection request) := by
  intro w w' h h' hF
  have hfiles := w.files_exchange request
  have hfiles' := w'.files_exchange request
  obtain ⟨hanswer, halike⟩ := exchange_alike h request
  obtain ⟨hanswer', halike'⟩ := exchange_alike h' request
  refine ⟨hanswer.trans hanswer'.symm, halike, halike', ?_⟩
  show F (w.exchange request).2.files (w'.exchange request).2.files
  rwa [hfiles, hfiles']

theorem alike_listeners : (alike w₀ F).Listeners environment.send environment.send := by
  intro message w w' h h' hF
  obtain ⟨hok, halike, hfiles⟩ := send_alike h message
  obtain ⟨hok', halike', hfiles'⟩ := send_alike h' message
  refine ⟨hok.trans hok'.symm, halike, halike', ?_⟩
  show F (environment.send message w).2.files (environment.send message w').2.files
  rwa [hfiles, hfiles']

theorem alike_queries (files : FileTree) :
    (alike w₀ fun t t' => t = files ∧ t' = files).Queries environment environment where
  readFile path := by
    rintro w w' h h' ⟨hfiles, hfiles'⟩
    refine ⟨?_, h, h', hfiles, hfiles'⟩
    show w.files.read path = w'.files.read path
    rw [hfiles, hfiles']
  certificateFault content := by
    intro w w' h h' hF
    refine ⟨?_, h, h', hF⟩
    show w.certificateFault content = w'.certificateFault content
    rw [h.certificateFault, h'.certificateFault]
  exchange := alike_exchange w₀ _

theorem alike_afterFiles {path : String} {w w' : World} (h : Alike w₀ w) (h' : Alike w₀ w')
    (hF : FileTree.AgreeOnWay path w.files w'.files) {x x' : Except FileError FileTree}
    (hx : FileTree.AgreeAfter path x x') :
    (w.afterFiles x).1 = (w'.afterFiles x').1 ∧ Alike w₀ (w.afterFiles x).2 ∧ Alike w₀ (w'.afterFiles x').2 ∧
      FileTree.AgreeOnWay path (w.afterFiles x).2.files (w'.afterFiles x').2.files := by
  rcases x with e | t <;> rcases x' with e' | t'
  · cases hx
    exact ⟨rfl, h, h', hF⟩
  · cases hx
  · cases hx
  · exact ⟨rfl, h.withFiles t, h'.withFiles t', hx⟩

/-- A file is changed in the same way if the files agree on the way to it. -/
theorem alike_changes (path : String) :
    (alike w₀ (FileTree.AgreeOnWay path)).ChangesAt environment environment path where
  createFile _ _ h h' hF := alike_afterFiles w₀ h h' hF (FileTree.create_congr hF)
  appendFile chunk _ _ h h' hF := alike_afterFiles w₀ h h' hF (FileTree.append_congr hF chunk)
  flushFile _ _ h h' hF := ⟨rfl, h, h', hF⟩
  removeFile _ _ h h' hF := alike_afterFiles w₀ h h' hF (FileTree.remove_congr hF)

end Correspondence

end SpacewalkAcquire
