/-
InlineSearch.Proofs.Provider.PinboardFile — the file that the user's bookmarks are
kept in.

A file that cannot be read counts as one that is not there, and then all bookmarks are
fetched anew. What a search has written is no such file: whatever characters the
bookmarks and their time have, they are read back from the file as they were
(`written_cache_read`).
-/
import InlineSearch.Proofs.Provider.Pinboard

namespace InlineSearch.Provider.Pinboard

/-- What a search finds in its own file once bookmarks have been written there. -/
theorem keptCache_tryWrite {c : Cache} {w : World} {saved : Files}
    (h : w.files.writeAt (w.home ++ [cacheName]) c.written = .ok saved) :
    keptCache.run ((World.tryWrite (w.home ++ [cacheName]) c.written).run w).2
      = (some c, { w with files := saved }) := by
  have hkept : kept { w with files := saved } = some c := by
    unfold kept
    dsimp only
    rw [Files.readAt_writeAt h]
    exact Cache.read?_written c
  rw [World.tryWrite_ok h, keptCache_eq, hkept]

/-- **What is kept is read back.** Bookmarks that could be written under a path are read
from the file there with nothing changed, and so does a search read its own file. -/
theorem written_cache_read (c : Cache) :
    (∀ (files saved : Files) (path : Text), files.write path c.written = .ok saved →
      ∃ t, saved.read path = .ok t ∧ Cache.read? t = some c)
    ∧ ∀ (w : World) (saved : Files),
      w.files.writeAt (w.home ++ [cacheName]) c.written = .ok saved →
      keptCache.run ((World.tryWrite (w.home ++ [cacheName]) c.written).run w).2
        = (some c, { w with files := saved }) :=
  ⟨fun _ _ _ h => ⟨c.written, Files.read_write h, Cache.read?_written c⟩,
    fun _ _ h => keptCache_tryWrite h⟩

/-- Bookmarks with quotes, backslashes and control characters. -/
theorem written_cache_read_with_escapes :
    ∃ saved t, ({} : Files).write cacheName
        (Cache.written ⟨"\x22\n", [{ url := "\\u0041", tags := "\x00\x1f\x7fé" }]⟩) = .ok saved
      ∧ saved.read cacheName = .ok t
      ∧ Cache.read? t = some ⟨"\x22\n", [{ url := "\\u0041", tags := "\x00\x1f\x7fé" }]⟩ := by
  have hsaved : ∀ t, ({} : Files).write cacheName t
      = .ok { entries := [([cacheName], some t)] } := fun _ => rfl
  obtain ⟨t, hread, hcache⟩ := (written_cache_read _).1 _ _ _ (hsaved _)
  exact ⟨_, t, hsaved _, hread, hcache⟩

end InlineSearch.Provider.Pinboard
