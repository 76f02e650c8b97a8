import Colloquy.Catalog.Prompts
import Colloquy.Template.Registry

/-!
# The catalog

The built-in templates, described by what differs from the usual. A template for a model that reads

    [HUMAN]:
    user prompt here
    [AI]:
    model response here

    [HUMAN]:
    ...

would have `"[HUMAN]:\n"`, the content and `"\n[AI]:\n"` as its user slots and `"\n\n"` as its
separator.
-/

namespace Colloquy.Catalog

def alpaca : Template.Spec where
  name := "alpaca"
  user := some (.content [.text ("### Instruction:\n" ++ contentMark ++ "\n\n### Response:\n")])
  separator := some (.fixed [.text "\n\n"])
  defaultSystem := Prompts.alpaca

def aquila : Template.Spec where
  name := "aquila"
  user := some (.content [.text ("Human: " ++ contentMark ++ "###Assistant:")])
  separator := some (.fixed [.text "###"])
  defaultSystem := Prompts.aquila
  stopWords := ["</s>"]
  efficientEos := true

def aris : Template.Spec where
  name := "aris"
  user := some (.content [.text Prompts.chatmlUser])
  system := some (.content [.text Prompts.chatmlSystem])
  observation := some (.content [.text Prompts.chatmlObservation])
  separator := some (.fixed [.text "\n"])
  defaultSystem := Prompts.arisPersona
  stopWords := ["<|im_end|>"]
  replaceEos := true

def atom : Template.Spec where
  name := "atom"
  user := some (.content [
      .bos,
      .text ("Human: " ++ contentMark ++ "\n"),
      .eos,
      .bos,
      .text "Assistant:"])
  assistant := some (.content [.text (contentMark ++ "\n"), .eos])

def baichuan : Template.Spec where
  name := "baichuan"
  user := some (.content [.token "<reserved_102>", .text contentMark, .token "<reserved_103>"])
  efficientEos := true

def baichuan2 : Template.Spec where
  name := "baichuan2"
  user := some (.content [.text ("<reserved_106>" ++ contentMark ++ "<reserved_107>")])
  efficientEos := true

def belle : Template.Spec where
  name := "belle"
  user := some (.content [.text ("Human: " ++ contentMark ++ "\n\nBelle: ")])
  system := some (.content [.bos, .text contentMark])
  separator := some (.fixed [.text "\n\n"])
  forceSystem := true

def bluelm : Template.Spec where
  name := "bluelm"
  user := some (.content [.token "[|Human|]:", .text contentMark, .token "[|AI|]:"])

def breeze : Template.Spec where
  name := "breeze"
  user := some (.content [.text ("[INST] " ++ contentMark ++ " [/INST] ")])
  system := some (.content [.bos, .text contentMark])
  defaultSystem := Prompts.breeze
  efficientEos := true

def chatglm2 : Template.Spec where
  name := "chatglm2"
  user := some (.content [
      .text ("[Round " ++ idxMark ++ "]\n\n问：" ++ contentMark ++ "\n\n答：")])
  system := some (.content [.token "[gMASK]", .token "sop", .text contentMark])
  separator := some (.fixed [.text "\n\n"])
  efficientEos := true
  forceSystem := true

def chatglm3 : Template.Spec where
  name := "chatglm3"
  user := some (.content [
      .token "<|user|>",
      .text "\n",
      .text contentMark,
      .token "<|assistant|>"])
  assistant := some (.content [.text "\n", .text contentMark])
  system := some (.content [.token "[gMASK]", .token "sop", .text contentMark])
  function := some (.call [.text (nameMark ++ "\n" ++ argumentsMark)])
  observation := some (.content [
      .token "<|observation|>",
      .text "\n",
      .text contentMark,
      .token "<|assistant|>"])
  stopWords := ["<|user|>", "<|observation|>"]
  efficientEos := true
  forceSystem := true

def chatglm3System : Template.Spec where
  name := "chatglm3_system"
  user := some (.content [
      .token "<|user|>",
      .text "\n",
      .text contentMark,
      .token "<|assistant|>"])
  assistant := some (.content [.text "\n", .text contentMark])
  system := some (.content [
      .token "[gMASK]",
      .token "sop",
      .token "<|system|>",
      .text "\n",
      .text contentMark])
  function := some (.call [.text (nameMark ++ "\n" ++ argumentsMark)])
  observation := some (.content [
      .token "<|observation|>",
      .text "\n",
      .text contentMark,
      .token "<|assistant|>"])
  defaultSystem := Prompts.chatglm3
  stopWords := ["<|user|>", "<|observation|>"]
  efficientEos := true

def chatml : Template.Spec where
  name := "chatml"
  user := some (.content [.text Prompts.chatmlUser])
  system := some (.content [.text Prompts.chatmlSystem])
  observation := some (.content [.text Prompts.chatmlObservation])
  separator := some (.fixed [.text "\n"])
  defaultSystem := "You are a helpful assistant."
  stopWords := ["<|im_end|>", "<|im_start|>"]
  replaceEos := true

def chatmlDe : Template.Spec where
  name := "chatml_de"
  user := some (.content [.text Prompts.chatmlUser])
  system := some (.content [.text Prompts.chatmlSystem])
  observation := some (.content [.text Prompts.chatmlObservation])
  separator := some (.fixed [.text "\n"])
  defaultSystem := "Du bist ein freundlicher und hilfsbereiter KI-Assistent."
  stopWords := ["<|im_end|>", "<|im_start|>"]
  replaceEos := true

def codegeex2 : Template.Spec where
  name := "codegeex2"
  system := some (.content [.token "[gMASK]", .token "sop", .text contentMark])
  forceSystem := true

def cohere : Template.Spec where
  name := "cohere"
  user := some (.content [
      .text ("<|START_OF_TURN_TOKEN|><|USER_TOKEN|>" ++ contentMark ++
        "<|END_OF_TURN_TOKEN|><|START_OF_TURN_TOKEN|><|CHATBOT_TOKEN|>")])
  system := some (.fixed [.bos])
  forceSystem := true

def cpm : Template.Spec where
  name := "cpm"
  user := some (.content [.text ("<用户>" ++ contentMark ++ "<AI>")])
  system := some (.content [.bos, .text contentMark])
  forceSystem := true

def dbrx : Template.Spec where
  name := "dbrx"
  user := some (.content [.text Prompts.chatmlUser])
  system := some (.content [.text Prompts.chatmlSystem])
  observation := some (.content [.text Prompts.chatmlObservation])
  separator := some (.fixed [.text "\n"])
  defaultSystem := Prompts.dbrx
  stopWords := ["<|im_end|>"]
  replaceEos := true

def deepseek : Template.Spec where
  name := "deepseek"
  user := some (.content [.text ("User: " ++ contentMark ++ "\n\nAssistant:")])
  system := some (.content [.bos, .text contentMark])
  forceSystem := true

def deepseekcoder : Template.Spec where
  name := "deepseekcoder"
  user := some (.content [.text ("### Instruction:\n" ++ contentMark ++ "\n### Response:")])
  assistant := some (.content [.text "\n", .text contentMark])
  separator := some (.fixed [.text "\n<|EOT|>\n"])
  defaultSystem := Prompts.deepseekCoder
  stopWords := ["<|EOT|>"]
  efficientEos := true

def defaultSpec : Template.Spec where
  name := "default"
  user := some (.content [.text ("Human: " ++ contentMark ++ "\nAssistant: ")])
  system := some (.content [.text (contentMark ++ "\n")])
  separator := some (.fixed [.text "\n"])

def emptySpec : Template.Spec where
  name := "empty"
  user := some (.content [.text contentMark])
  assistant := some (.content [.text contentMark])
  system := some (.content [.bos, .text contentMark])
  efficientEos := true
  forceSystem := true

def falcon : Template.Spec where
  name := "falcon"
  user := some (.content [.text ("User: " ++ contentMark ++ "\nFalcon:")])
  separator := some (.fixed [.text "\n"])
  efficientEos := true

def fewshot : Template.Spec where
  name := "fewshot"
  separator := some (.fixed [.text "\n\n"])
  efficientEos := true

def gemma : Template.Spec where
  name := "gemma"
  user := some (.content [
      .text ("<start_of_turn>user\n" ++ contentMark ++ "<end_of_turn>\n<start_of_turn>model\n")])
  system := some (.content [.bos, .text contentMark])
  observation := some (.content [
      .text ("<start_of_turn>tool\n" ++ contentMark ++ "<end_of_turn>\n<start_of_turn>model\n")])
  separator := some (.fixed [.text "<end_of_turn>\n"])
  efficientEos := true
  forceSystem := true

def glm4 : Template.Spec where
  name := "glm4"
  user := some (.content [.text ("<|user|>\n" ++ contentMark ++ "<|assistant|>")])
  assistant := some (.content [.text ("\n" ++ contentMark)])
  system := some (.content [.token "[gMASK]", .token "<sop>", .text contentMark])
  function := some (.call [.text (nameMark ++ "\n" ++ argumentsMark)])
  observation := some (.content [.text ("<|observation|>\n" ++ contentMark ++ "<|assistant|>")])
  tools := some (.manifest .glm4)
  stopWords := ["<|user|>", "<|observation|>"]
  efficientEos := true
  forceSystem := true

def intern : Template.Spec where
  name := "intern"
  user := some (.content [
      .text ("<|User|>:" ++ contentMark),
      .token "<eoh>",
      .text "\n<|Bot|>:"])
  separator := some (.fixed [.token "<eoa>", .text "\n"])
  stopWords := ["<eoa>"]
  efficientEos := true

def intern2 : Template.Spec where
  name := "intern2"
  user := some (.content [.text Prompts.chatmlUser])
  system := some (.content [.bos, .text Prompts.chatmlSystem])
  separator := some (.fixed [.text "\n"])
  defaultSystem := Prompts.intern2
  stopWords := ["<|im_end|>"]
  efficientEos := true

def llama2 : Template.Spec where
  name := "llama2"
  user := some (.content [.bos, .text ("[INST] " ++ contentMark ++ " [/INST]")])
  system := some (.content [.text ("<<SYS>>\n" ++ contentMark ++ "\n<</SYS>>\n\n")])
  defaultSystem := Prompts.helpfulAndHonest

def llama2Zh : Template.Spec where
  name := "llama2_zh"
  user := some (.content [.bos, .text ("[INST] " ++ contentMark ++ " [/INST]")])
  system := some (.content [.text ("<<SYS>>\n" ++ contentMark ++ "\n<</SYS>>\n\n")])
  defaultSystem := "You are a helpful assistant. 你是一个乐于助人的助手。"

def llama3 : Template.Spec where
  name := "llama3"
  user := some (.content [
      .text ("<|start_header_id|>user<|end_header_id|>\n\n" ++ contentMark ++
        "<|eot_id|><|start_header_id|>assistant<|end_header_id|>\n\n")])
  system := some (.content [
      .bos,
      .text ("<|start_header_id|>system<|end_header_id|>\n\n" ++ contentMark ++ "<|eot_id|>")])
  observation := some (.content [
      .text ("<|start_header_id|>tool<|end_header_id|>\n\n" ++ contentMark ++
        "<|eot_id|><|start_header_id|>assistant<|end_header_id|>\n\n")])
  defaultSystem := "You are a helpful assistant."
  stopWords := ["<|eot_id|>"]
  replaceEos := true

def mistral : Template.Spec where
  name := "mistral"
  user := some (.content [.text (" [INST] " ++ contentMark ++ " [/INST]")])
  system := some (.content [.bos, .text contentMark])
  forceSystem := true

def olmo : Template.Spec where
  name := "olmo"
  user := some (.content [.text ("<|user|>\n" ++ contentMark ++ "<|assistant|>")])
  assistant := some (.content [.text contentMark, .eos])
  system := some (.content [.eos, .text contentMark])
  forceSystem := true

def openchat : Template.Spec where
  name := "openchat"
  user := some (.content [
      .text ("GPT4 Correct User: " ++ contentMark),
      .eos,
      .text "GPT4 Correct Assistant:"])
  assistant := some (.content [.text contentMark, .eos])
  system := some (.content [.bos, .text contentMark])
  forceSystem := true

def orion : Template.Spec where
  name := "orion"
  user := some (.content [.text ("Human: " ++ contentMark ++ "\n\nAssistant: "), .eos])
  system := some (.content [.bos, .text contentMark])
  forceSystem := true

def phi : Template.Spec where
  name := "phi"
  user := some (.content [.text ("<|user|>\n" ++ contentMark ++ "<|end|>\n<|assistant|>\n")])
  system := some (.content [.bos, .text ("<|system|>\n" ++ contentMark ++ "<|end|>\n")])
  observation := some (.content [
      .text ("<|function_output|>\n" ++ contentMark ++ "<|end|>\n<|assistant|>\n")])
  separator := some (.fixed [.text "\n"])
  defaultSystem := "You are a helpful AI assistant."
  stopWords := ["<|end|>"]
  replaceEos := true

def qwen : Template.Spec where
  name := "qwen"
  user := some (.content [.text Prompts.chatmlUser])
  system := some (.content [.text Prompts.chatmlSystem])
  observation := some (.content [.text Prompts.chatmlObservation])
  separator := some (.fixed [.text "\n"])
  defaultSystem := "You are a helpful assistant."
  stopWords := ["<|im_end|>"]
  replaceEos := true

def solar : Template.Spec where
  name := "solar"
  user := some (.content [.text ("### User:\n" ++ contentMark ++ "\n\n### Assistant:\n")])
  system := some (.content [.text ("### System:\n" ++ contentMark ++ "\n\n")])
  efficientEos := true

def starchat : Template.Spec where
  name := "starchat"
  user := some (.content [.text ("<|user|>\n" ++ contentMark ++ "<|end|>\n<|assistant|>")])
  system := some (.content [.text ("<|system|>\n" ++ contentMark ++ "<|end|>\n")])
  separator := some (.fixed [.text "\n"])
  stopWords := ["<|end|>"]
  replaceEos := true
  forceSystem := true

def vicuna : Template.Spec where
  name := "vicuna"
  user := some (.content [.text ("USER: " ++ contentMark ++ " ASSISTANT:")])
  defaultSystem := Prompts.vicuna

def xuanyuan : Template.Spec where
  name := "xuanyuan"
  user := some (.content [.text ("Human: " ++ contentMark ++ " Assistant:")])
  defaultSystem := Prompts.xuanyuan

def xverse : Template.Spec where
  name := "xverse"
  user := some (.content [.text ("Human: " ++ contentMark ++ "\n\nAssistant: ")])

def yayi : Template.Spec where
  name := "yayi"
  user := some (.content [
      .token "<|Human|>",
      .text (":\n" ++ contentMark ++ "\n\n"),
      .token "<|YaYi|>",
      .text ":"])
  system := some (.content [.token "<|System|>", .text (":\n" ++ contentMark ++ "\n\n")])
  separator := some (.fixed [.text "\n\n"])
  defaultSystem := Prompts.yayi
  stopWords := ["<|End|>"]

def yi : Template.Spec where
  name := "yi"
  user := some (.content [.text Prompts.chatmlUser])
  separator := some (.fixed [.text "\n"])
  stopWords := ["<|im_end|>"]
  replaceEos := true

def yiVl : Template.Spec where
  name := "yi_vl"
  user := some (.content [.text ("### Human: " ++ contentMark ++ "\n### Assistant:")])
  separator := some (.fixed [.text "\n"])
  defaultSystem := Prompts.yiVision
  stopWords := ["###"]
  efficientEos := true

def yuan : Template.Spec where
  name := "yuan"
  user := some (.content [.text contentMark, .token "<sep>"])
  separator := some (.fixed [.text "\n"])
  stopWords := ["<eod>"]
  replaceEos := true

def zephyr : Template.Spec where
  name := "zephyr"
  user := some (.content [.text ("<|user|>\n" ++ contentMark), .eos, .text "<|assistant|>"])
  assistant := some (.content [.text ("\n" ++ contentMark), .eos])
  system := some (.content [.text ("<|system|>\n" ++ contentMark), .eos])
  defaultSystem := "You are Zephyr, a helpful assistant."

def ziya : Template.Spec where
  name := "ziya"
  user := some (.content [.text ("<human>:" ++ contentMark ++ "\n<bot>:")])
  separator := some (.fixed [.text "\n"])

/-- The descriptions of all built-in templates. -/
def specs : List Template.Spec := [
  alpaca, aquila, aris, atom, baichuan, baichuan2, belle, bluelm, breeze, chatglm2, chatglm3,
  chatglm3System, chatml, chatmlDe, codegeex2, cohere, cpm, dbrx, deepseek, deepseekcoder,
  defaultSpec, emptySpec, falcon, fewshot, gemma, glm4, intern, intern2, llama2, llama2Zh,
  llama3, mistral, olmo, openchat, orion, phi, qwen, solar, starchat, vicuna, xuanyuan, xverse,
  yayi, yi, yiVl, yuan, zephyr, ziya]

/-- The built-in templates. -/
def templates : List Template :=
  specs.map Template.Spec.build

end Colloquy.Catalog

/-- The registry of the built-in templates. -/
def Colloquy.Registry.builtins : Colloquy.Registry :=
  Colloquy.Registry.ofList Colloquy.Catalog.templates
