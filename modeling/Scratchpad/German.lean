import Scratchpad.Replace.Run

/-!
# From you to me in German

A note that speaks to its reader as *du* is turned into one that speaks of its writer as *ich*:
pronouns and verb forms are replaced as whole words, with the case of their first letter kept.

* `germanRuleText` — the rule file.
* `secondToFirst` — the words and what they become.
* `germanRules` — the same as a rule set.
* `fromYouToMe` — apply them to a text.
-/

namespace Scratchpad

/-- The rule file that the words come from, line by line. -/
def germanRuleLines : List String := [
  "",
  "# pronouns",
  r#""du"->"ich""#, r#""dich"->"mich""#, r#""dir"->"mir""#,
  "",
  "# possessives",
  r#""dein"->"mein""#, r#""deine"->"meine""#, r#""deinen"->"meinen""#, r#""deinem"->"meinem""#,
  r#""deiner"->"meiner""#, r#""deines"->"meines""#,
  "",
  "# sein, haben, werden",
  r#""bist"->"bin""#, r#""warst"->"war""#, r#""wärst"->"wäre""#, r#""hast"->"habe""#,
  r#""hattest"->"hatte""#, r#""hättest"->"hätte""#, r#""wirst"->"werde""#, r#""würdest"->"würde""#,
  "",
  "# modal verbs",
  r#""kannst"->"kann""#, r#""konntest"->"konnte""#, r#""könntest"->"könnte""#,
  r#""willst"->"will""#, r#""wolltest"->"wollte""#, r#""musst"->"muss""#, r#""musstest"->"musste""#,
  r#""müsstest"->"müsste""#, r#""sollst"->"soll""#, r#""solltest"->"sollte""#,
  r#""darfst"->"darf""#, r#""dürftest"->"dürfte""#, r#""magst"->"mag""#, r#""möchtest"->"möchte""#,
  r#""weißt"->"weiß""#,
  "",
  "# regular present tense",
  r#""arbeitest"->"arbeite""#, r#""bleibst"->"bleibe""#, r#""brauchst"->"brauche""#,
  r#""denkst"->"denke""#, r#""erinnerst"->"erinnere""#, r#""findest"->"finde""#,
  r#""fragst"->"frage""#, r#""freust"->"freue""#, r#""fühlst"->"fühle""#, r#""gehst"->"gehe""#,
  r#""glaubst"->"glaube""#, r#""hörst"->"höre""#, r#""kennst"->"kenne""#, r#""kommst"->"komme""#,
  r#""lernst"->"lerne""#, r#""liegst"->"liege""#, r#""machst"->"mache""#, r#""sagst"->"sage""#,
  r#""spielst"->"spiele""#, r#""stehst"->"stehe""#, r#""suchst"->"suche""#,
  r#""verstehst"->"verstehe""#,
  "",
  "# stem-changing present tense",
  r#""fährst"->"fahre""#, r#""gibst"->"gebe""#, r#""hältst"->"halte""#, r#""hilfst"->"helfe""#,
  r#""isst"->"esse""#, r#""lässt"->"lasse""#, r#""läufst"->"laufe""#, r#""liest"->"lese""#,
  r#""nimmst"->"nehme""#, r#""schläfst"->"schlafe""#, r#""siehst"->"sehe""#,
  r#""sprichst"->"spreche""#, r#""trägst"->"trage""#, r#""triffst"->"treffe""#,
  r#""vergisst"->"vergesse""#]

/-- The rule file. -/
def germanRuleText : String := String.join (germanRuleLines.map (· ++ "\n"))

/-- The words of the second person, each with the word of the first that takes its place. -/
def secondToFirst : List (String × String) := [
  ("du", "ich"), ("dich", "mich"), ("dir", "mir"), ("dein", "mein"), ("deine", "meine"),
  ("deinen", "meinen"), ("deinem", "meinem"), ("deiner", "meiner"), ("deines", "meines"),
  ("bist", "bin"), ("warst", "war"), ("wärst", "wäre"), ("hast", "habe"), ("hattest", "hatte"),
  ("hättest", "hätte"), ("wirst", "werde"), ("würdest", "würde"), ("kannst", "kann"),
  ("konntest", "konnte"), ("könntest", "könnte"), ("willst", "will"), ("wolltest", "wollte"),
  ("musst", "muss"), ("musstest", "musste"), ("müsstest", "müsste"), ("sollst", "soll"),
  ("solltest", "sollte"), ("darfst", "darf"), ("dürftest", "dürfte"), ("magst", "mag"),
  ("möchtest", "möchte"), ("weißt", "weiß"), ("arbeitest", "arbeite"), ("bleibst", "bleibe"),
  ("brauchst", "brauche"), ("denkst", "denke"), ("erinnerst", "erinnere"), ("findest", "finde"),
  ("fragst", "frage"), ("freust", "freue"), ("fühlst", "fühle"), ("gehst", "gehe"),
  ("glaubst", "glaube"), ("hörst", "höre"), ("kennst", "kenne"), ("kommst", "komme"),
  ("lernst", "lerne"), ("liegst", "liege"), ("machst", "mache"), ("sagst", "sage"),
  ("spielst", "spiele"), ("stehst", "stehe"), ("suchst", "suche"), ("verstehst", "verstehe"),
  ("fährst", "fahre"), ("gibst", "gebe"), ("hältst", "halte"), ("hilfst", "helfe"),
  ("isst", "esse"), ("lässt", "lasse"), ("läufst", "laufe"), ("liest", "lese"),
  ("nimmst", "nehme"), ("schläfst", "schlafe"), ("siehst", "sehe"), ("sprichst", "spreche"),
  ("trägst", "trage"), ("triffst", "treffe"), ("vergisst", "vergesse")]

/-- The words as a rule set, which is that of the rule file. -/
def germanRules : List Rule := secondToFirst.map fun w => { pattern := w.1, replacement := w.2 }

/-- Turn a text from the second person to the first. -/
def fromYouToMe (text : String) : Except Error String :=
  (applyRules germanRules text { wholeWords := true, preserveCase := true }).map (·.text)

end Scratchpad
