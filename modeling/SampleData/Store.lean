import SampleData.Bundle
import SampleData.Json.Reader
import SampleData.SortedMap
import SampleData.Store.Disk

/-! # Stores

A store reads bundles from a source and keeps every bundle it has read. A key that was loaded once answers
with the bundle of that first time, whatever the source holds later; a load that fails leaves no trace.
-/
namespace SampleData

/-- Where the texts of bundles come from: the text for a domain and a locale, none, or an error. -/
structure Source where
  read : (domain locale : String) → Except Error (Option String)

structure BundleText where
  locale : String
  domain : String
  text : String

namespace Source

/-- A table of texts; of two entries for one key the first counts. -/
def ofTable (entries : List BundleText) : Source where
  read domain locale :=
    .ok ((entries.find? fun e => e.locale == locale && e.domain == domain).map (·.text))

/-- A name that can be a part of a path: ASCII letters, digits, `_` and `-`, at least one of them. -/
def isSafeName (name : String) : Bool :=
  !name.toList.isEmpty && name.toList.all fun c => c.isAlphanum || c == '_' || c == '-'

/-- Where the bundle of a key lies below the root. -/
def bundlePath (root : List String) (domain locale : String) : List String :=
  root ++ [locale, domain ++ ".json"]

/-- The files `<locale>/<domain>.json` below a directory. Keys that are no safe names are never looked
up. -/
def ofDirectory (disk : Disk) (root : List String) : Source where
  read domain locale :=
    if isSafeName domain && isSafeName locale then
      match disk.read (bundlePath root domain locale) with
      | .ok text => .ok (some text)
      | .error .missing => .ok none
      | .error .unreadable => .error .io
    else .ok none

end Source

/-- The locales of a table, ascending and without repetition. -/
def localesOf (entries : List BundleText) : List String :=
  (entries.foldl (fun m e => m.insert e.locale ()) (SortedMap.empty : SortedMap String Unit)).keys

/-- A source and the bundles read from it so far, by domain and locale. -/
structure Store where
  source : Source
  cache : SortedMap (String × String) Bundle

namespace Store

def ofSource (source : Source) : Store := ⟨source, .empty⟩

/-- Reads a bundle past the cache. -/
def readBundle (source : Source) (domain locale : String) : Except Error Bundle :=
  match source.read domain locale with
  | .error e => .error e
  | .ok none => .error (.resourceNotFound domain locale)
  | .ok (some text) =>
    match Json.read? text with
    | none => .error (.invalidBundle (.notJson locale domain))
    | some data =>
      if data.isObject then .ok ⟨domain, locale, data⟩
      else .error (.invalidBundle (.notAnObject locale domain))

/-- The bundle of a key: the cached one, or else the one the source holds now, which is then cached. -/
def load (domain locale : String) : Gen Store Bundle := fun store =>
  match store.cache.get? (domain, locale) with
  | some bundle => .ok bundle store
  | none =>
    match readBundle store.source domain locale with
    | .ok bundle => .ok bundle { store with cache := store.cache.insert (domain, locale) bundle }
    | .error e => .error e store

def isCached (store : Store) (domain locale : String) : Bool :=
  (store.cache.get? (domain, locale)).isSome

def cachedKeys (store : Store) : List (String × String) := store.cache.keys

end Store

end SampleData
