import HookRelay.Config.Basic
import Mathlib.Data.List.TakeWhile

/-!
What the form of a database's URL that may be shown gives away of its password. The mask reaches back
to the last colon in front of the host, which is one of the password's own if it has any: of such a
password only what comes after its last colon is hidden.
-/
namespace HookRelay

/-- A URL but for its password. Nothing in front of the host holds an `@`, which would begin the host. -/
structure Access where
  scheme : List Char
  user : List Char
  host : List Char
  scheme_closed : '@' ∉ scheme
  user_closed : '@' ∉ user

structure Password where
  text : List Char
  closed : '@' ∉ text

namespace Password

def empty : Password := ⟨[], List.not_mem_nil⟩

/-- What a password has up to its last colon. -/
def exposed (password : Password) : List Char :=
  (password.text.reverse.dropWhile (· ≠ ':')).reverse

theorem exposed_eq_nil_iff (password : Password) :
    password.exposed = [] ↔ ':' ∉ password.text := by
  rw [exposed, List.reverse_eq_nil_iff, List.dropWhile_eq_nil_iff]
  constructor
  · intro others colon
    have other := others ':' (List.mem_reverse.mpr colon)
    simp at other
  · intro absent char member
    apply decide_eq_true
    rintro rfl
    exact absent (List.mem_reverse.mp member)

end Password

namespace Access

def front (access : Access) : List Char := access.scheme ++ "://".toList ++ access.user ++ [':']

def url (access : Access) (password : Password) : List Char :=
  access.front ++ password.text ++ '@' :: access.host

/-- What a configuration shows of the database that this leads to. -/
def shown (access : Access) (config : Configuration) (password : Password) : String :=
  { config with databaseUrl := String.ofList (access.url password) }.maskedDatabaseUrl

variable (access : Access) (password : Password)

private theorem ne_at_of_mem {char : Char} (member : char ∈ access.front ++ password.text) :
    char ≠ '@' := by
  rintro rfl
  simp only [front, List.mem_append, List.mem_singleton] at member
  rcases member with ((((scheme | slashes) | user) | colon) | secret)
  · exact access.scheme_closed scheme
  · revert slashes
    decide
  · exact access.user_closed user
  · cases colon
  · exact password.closed secret

private theorem takeWhile_url :
    (access.url password).takeWhile (· ≠ '@') = access.front ++ password.text := by
  rw [url, List.takeWhile_append_of_pos, List.takeWhile_cons_of_neg, List.append_nil]
  · simp
  · intro char member
    exact decide_eq_true (access.ne_at_of_mem password member)

private theorem dropWhile_url :
    (access.url password).dropWhile (· ≠ '@') = '@' :: access.host := by
  rw [url, List.dropWhile_append_of_pos, List.dropWhile_cons_of_neg]
  · simp
  · intro char member
    exact decide_eq_true (access.ne_at_of_mem password member)

private theorem dropWhile_front :
    ((access.front ++ password.text).reverse.dropWhile (· ≠ ':')).reverse =
      access.front ++ password.exposed := by
  rw [List.reverse_append, List.dropWhile_append]
  split
  · rename_i plain
    have none : password.exposed = [] := by
      rw [Password.exposed, List.isEmpty_iff.mp plain, List.reverse_nil]
    rw [none, List.append_nil, front, List.reverse_append, List.reverse_singleton,
      List.singleton_append, List.dropWhile_cons_of_neg (by simp), List.reverse_cons,
      List.reverse_reverse]
  · rw [List.reverse_append, List.reverse_reverse]
    rfl

theorem maskUrl_url : Configuration.maskUrl (access.url password) =
    access.front ++ password.exposed ++ "***@".toList ++ access.host := by
  have colon : access.front ++ password.exposed ≠ [] := by
    simp [front]
  rw [Configuration.maskUrl, takeWhile_url, dropWhile_url, dropWhile_front]
  simp [colon]

theorem shown_eq (config : Configuration) : access.shown config password =
    String.ofList (access.front ++ password.exposed ++ "***@".toList ++ access.host) := by
  rw [shown, Configuration.maskedDatabaseUrl, String.toList_ofList, maskUrl_url]

/-- Two passwords are told apart exactly by what they have up to their last colons. -/
theorem shown_eq_shown_iff (config : Configuration) (first second : Password) :
    access.shown config first = access.shown config second ↔ first.exposed = second.exposed := by
  rw [shown_eq, shown_eq]
  constructor
  · intro same
    have texts := String.ofList_injective same
    rw [List.append_left_inj, List.append_left_inj, List.append_right_inj] at texts
    exact texts
  · intro same
    rw [same]

/-- What is shown of a database gives away what its password has up to the last colon and no more, so
that a password is hidden exactly if it has none. -/
theorem shown_exposes (config : Configuration) (access : Access) :
    (∀ password, access.shown config password =
      String.ofList (access.front ++ password.exposed ++ "***@".toList ++ access.host)) ∧
    (∀ first second, access.shown config first = access.shown config second ↔
      first.exposed = second.exposed) ∧
    ∀ password, access.shown config password = access.shown config .empty ↔
      ':' ∉ password.text := by
  refine ⟨fun password => access.shown_eq password config, access.shown_eq_shown_iff config,
    fun password => ?_⟩
  rw [shown_eq_shown_iff, ← Password.exposed_eq_nil_iff]
  rfl

private def nearby : Access := ⟨"postgresql".toList, "relay".toList, "localhost/relay".toList,
  by decide, by decide⟩

theorem shown_ne_of_colon :
    nearby.shown .standard ⟨"blue:sky".toList, by decide⟩ ≠
      nearby.shown .standard ⟨"red:sky".toList, by decide⟩ := by
  rw [Ne, shown_eq_shown_iff]
  decide

end Access

end HookRelay
