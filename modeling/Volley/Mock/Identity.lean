import Volley.Count
import Volley.Text.Integer
import Volley.World

/-!
# Personal data

Numbers, names and addresses of persons who do not exist. The number of an identity card has a
region, a date of birth, a sequence number and a check character: the remainder by 11 of a weighted
sum of the digits. The weights are invertible modulo 11 and neighbours differ, so a single wrong
digit and two exchanged neighbours change the check character.
-/

namespace Volley.Mock

/-- The regions that an identity card may come from. -/
def regions : List String := [
    "110101", "110105", "120101", "310101", "310104", "320102", "330102", "420102", "440103",
    "440305", "500103", "510104", "610102"]

/-- The weights of the seventeen digits before the check character. -/
def checkWeights : List Nat :=
  [7, 9, 10, 5, 8, 4, 2, 1, 6, 3, 7, 9, 10, 5, 8, 4, 2]

/-- The check characters, by the remainder of the weighted sum. -/
def checkCharacters : List Char :=
  ['1', '0', 'X', '9', '8', '7', '6', '5', '4', '3', '2']

/-- The first three digits of mobile numbers. -/
def mobileSeries : List String := [
    "139", "137", "135", "133", "131", "150", "153", "155", "157", "159", "188", "187", "189",
    "179", "170", "173", "175"]

/-- The domains of mail addresses. -/
def mailDomains : List String :=
  ["qq.com", "163.com", "126.com", "gmail.com"]

/-- The characters of family names. -/
def familyNames : List Char :=
  ("赵钱孙李周吴郑王冯陈褚卫蒋沈韩杨朱秦尤许何吕施张孔曹严华金魏陶姜谢邹柏窦章苏潘范" ++
    "彭鲁马方任袁柳唐薛雷贺罗郝常于傅齐康伍余顾孟黄穆萧姚邵汪毛贝成戴宋庞熊纪舒董梁杜" ++
    "江郭林钟徐邱高夏蔡田胡霍万卢莫丁邓洪石崔程陆叶刘白").toList

/-- The characters of given names. -/
def givenNames : List Char :=
  ("锦青倩婷婉瑾颖露瑶怡雁仪荷丹蓉君琴蕊薇梦岚韵卿聪澜悦昭冰羽希宁欣晓欢枫芸菲思丽秀" ++
    "娟英华慧美娜静淑惠玉萍玲芳燕春珍莉兰凤洁梅琳云雪霞月佳涛进坚博诚敬振壮群豪乐磊民" ++
    "浩亮谦翰朗宏鸣鹏泽晨士建家德泰盛伟刚勇毅俊峰强军平东文辉明永健广志义兴良海山仁波" ++
    "福龙元国胜学祥达安中武新清飞彬顺信杰航").toList

/-- The weighted sum of seventeen digits. -/
def weightedSum (digits : List Nat) : Nat :=
  total (digits.zipWith (· * ·) checkWeights)

/-- The check character of an identity card number without it, which has as many bytes as there are
weights. Every weight takes the digit at its place, and only ASCII digits are digits here. -/
def checkCharacter? (body : List Char) : Option Char :=
  if (String.ofList body).utf8ByteSize = checkWeights.length then do
    let digits ← (body.take checkWeights.length).mapM Text.asciiDigit?
    checkCharacters[weightedSum digits % 11]?
  else none

/-- A digit as a character. -/
def digitChar (n : Nat) : Char :=
  Nat.digitChar (n % 10)

/-- A number of exactly `width` digits, the lowest ones. -/
def fixedDigits : Nat → Nat → List Char
  | 0, _ => []
  | width + 1, n => fixedDigits width (n / 10) ++ [digitChar n]

/-- A choice from a list of texts. -/
def pick (chance : Nat) (choices : List String) : List Char :=
  ((choose? chance choices).getD "").toList

/-- A generator of personal data; each item is made from a supply of random numbers. -/
structure Mocker where
  /-- The number of an identity card. -/
  idCard : (Nat → Nat) → String
  /-- A mail address. -/
  email : (Nat → Nat) → String
  /-- A mobile number. -/
  mobile : (Nat → Nat) → String
  /-- A name. -/
  name : (Nat → Nat) → String

/-- The seventeen digits of an identity card: region, birth year 1950 to 1999, month, day 1 to 28,
and sequence number. -/
def randomIdCardBody (chance : Nat → Nat) : List Char :=
  pick (chance 0) regions ++ fixedDigits 4 (1950 + chance 1 % 50) ++
    fixedDigits 2 (1 + chance 2 % 12) ++ fixedDigits 2 (1 + chance 3 % 28) ++
    fixedDigits 3 (chance 4 % 1000)

/-- The number of an identity card, with its check character. -/
def randomIdCard (chance : Nat → Nat) : String :=
  let body := randomIdCardBody chance
  String.ofList (body ++ (checkCharacter? body).toList)

/-- A mail address: six letters, four digits and a domain. -/
def randomEmail (chance : Nat → Nat) : String :=
  let letters := (List.range 6).map fun i => Char.ofNat ('a'.toNat + chance i % 26)
  let digits := (List.range 4).map fun i => digitChar (chance (6 + i))
  String.ofList (letters ++ digits ++ '@' :: pick (chance 10) mailDomains)

/-- A mobile number: a series and eight digits. -/
def randomMobile (chance : Nat → Nat) : String :=
  let digits := (List.range 8).map fun i => digitChar (chance (1 + i))
  String.ofList (pick (chance 0) mobileSeries ++ digits)

/-- A family name of one character and a given name of one or two. -/
def randomName (chance : Nat → Nat) : String :=
  let family := (choose? (chance 0) familyNames).toList
  let given := (List.range (1 + chance 1 % 2)).filterMap fun i =>
    choose? (chance (2 + i)) givenNames
  String.ofList (family ++ given)

/-- The generator of the locale cn. -/
def Mocker.cn : Mocker :=
  ⟨randomIdCard, randomEmail, randomMobile, randomName⟩

end Volley.Mock
