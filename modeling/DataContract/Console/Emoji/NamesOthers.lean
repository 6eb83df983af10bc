/-
The names of emoji that start with no small letter of ASCII.
-/
namespace DataContract.Console.Emoji

/-- The emoji whose names start with no small letter of ASCII. -/
def namesOthers : List (String × String) := [
  ("+1", "👍"), ("-1", "👎"), ("100", "💯"), ("1234", "🔢"), ("1st_place_medal", "🥇"),
  ("2nd_place_medal", "🥈"), ("3rd_place_medal", "🥉"), ("8ball", "🎱"), ("__1", "👎"),
  ("åland_islands", "🇦🇽")]

end DataContract.Console.Emoji
