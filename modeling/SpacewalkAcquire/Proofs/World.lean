import SpacewalkAcquire.Proofs.Transfer.Store
import SpacewalkAcquire.World

/-!
# Worlds keep the laws of files

* `World.usesFiles` : what the environment of a world does to files is what can be done to a `FileTree`.
-/

namespace SpacewalkAcquire.World

theorem files_exchange (w : World) (request : Http.Request) : (w.exchange request).2.files = w.files := by
  unfold World.exchange
  cases w.server w.requests request <;> rfl

theorem usesFiles : environment.UsesFiles files where
  createFile path w := by
    dsimp only [environment]
    cases w.files.create path with
    | ok t => rfl
    | error e => rfl
  appendFile path chunk w := by
    dsimp only [environment]
    cases w.files.append path chunk with
    | ok t => rfl
    | error e => exact .inl rfl
  flushFile _ _ := rfl
  removeFile path w := by
    dsimp only [environment]
    cases w.files.remove path with
    | ok t => rfl
    | error e => rfl
  readFile _ _ := rfl
  certificateFault _ _ := rfl
  exchange _ request w := w.files_exchange request
  write _ _ := rfl
  flush _ := rfl

end SpacewalkAcquire.World
